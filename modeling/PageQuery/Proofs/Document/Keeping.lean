import PageQuery.Proofs.Document.Asking
import PageQuery.Proofs.Document.Pdf
import PageQuery.Proofs.Document.Stored
import PageQuery.Proofs.Pdf.Library

/-!
What the writers of stored pages and of PDF files keep. One of them collects the pages that it is
asked for, the other one leaves out the pages that it was not asked for; both write the same pages
of their sources, whatever the order of the requests, and however often a page is asked for or
refused.
-/
namespace PageQuery

namespace Document

variable {σ ω : Type} {d : Document σ ω} {takes : PageNumber → Bool}
  {writerOf : List PageNumber → ω} {kept pages : List PageNumber} {h h' : Host σ}

theorem completed_congr (writer : ω) (hhost : h.afresh = h'.afresh) :
    d.completed writer h = d.completed writer h' := by
  rw [completed, hhost, completed]

/-- Writers that remember the pages taken, in ascending order, and nothing of those refused. -/
structure Collects (d : Document σ ω) (takes : PageNumber → Bool)
    (writerOf : List PageNumber → ω) : Prop where
  taken {page : PageNumber} (htakes : takes page = true) (kept : List PageNumber) (h : Host σ) :
    d.copyPage page (writerOf kept) h = ((.ok (), writerOf (page.insert kept)), h)
  refused {page : PageNumber} (hrefuses : takes page = false) (kept : List PageNumber)
    (h : Host σ) :
    ∃ failure, d.copyPage page (writerOf kept) h = ((.error failure, writerOf kept), h)

/-- What a writer comes to that is asked for pages, among them the ones granted. A refused call
leaves no trace, and calls with the same pages granted end alike. -/
structure WritesGranted (d : Document σ ω) (writer : ω) (h : Host σ)
    (grants : PageNumber → Prop) : Prop where
  answer_iff (pages : List PageNumber) :
    ∀ a ∈ (d.askEach writer h pages).1, a.answer = .ok () ↔ grants a.page
  output_refused (before after : List PageNumber) {page : PageNumber} {failure : Failure}
    (hrefused : (d.askEach writer h (before ++ page :: after)).1[before.length]? =
      some ⟨page, .error failure⟩) :
    d.output writer h (before ++ page :: after) = d.output writer h (before ++ after)
  output_congr {pages pages' : List PageNumber}
    (hgranted : ∀ page, page ∈ d.granted writer h pages ↔ page ∈ d.granted writer h pages') :
    d.output writer h pages = d.output writer h pages'

namespace Collects

theorem askEach_snd (hd : d.Collects takes writerOf) (kept pages : List PageNumber) (h : Host σ) :
    (d.askEach (writerOf kept) h pages).2.1 =
        writerOf ((pages.filter takes).foldl (fun kept page => page.insert kept) kept) ∧
      (d.askEach (writerOf kept) h pages).2.2.afresh = h.afresh := by
  induction pages generalizing kept h with
  | nil => exact ⟨rfl, rfl⟩
  | cons page more ih =>
    cases htakes : takes page with
    | true =>
      rw [d.askEach_cons (hd.taken htakes kept h), List.filter_cons_of_pos htakes, List.foldl_cons]
      exact ih (page.insert kept) h.afresh
    | false =>
      obtain ⟨failure, hcopy⟩ := hd.refused htakes kept h
      rw [d.askEach_cons hcopy, List.filter_cons_of_neg (by simp [htakes])]
      exact ih kept h.afresh

theorem answer_iff (hd : d.Collects takes writerOf) {a : Attempt}
    (ha : a ∈ (d.askEach (writerOf kept) h pages).1) :
    a.answer = .ok () ↔ takes a.page = true := by
  induction pages generalizing kept h with
  | nil => cases ha
  | cons page more ih =>
    cases htakes : takes page with
    | true =>
      rw [d.askEach_cons (hd.taken htakes kept h)] at ha
      rcases List.mem_cons.mp ha with rfl | hmore
      · simp [htakes]
      · exact ih hmore
    | false =>
      obtain ⟨failure, hcopy⟩ := hd.refused htakes kept h
      rw [d.askEach_cons hcopy] at ha
      rcases List.mem_cons.mp ha with rfl | hmore
      · simp [htakes]
      · exact ih hmore

theorem granted_eq (hd : d.Collects takes writerOf) :
    d.granted (writerOf kept) h pages = pages.filter takes := by
  unfold granted
  induction pages generalizing kept h with
  | nil => rfl
  | cons page more ih =>
    cases htakes : takes page with
    | true =>
      rw [d.askEach_cons (hd.taken htakes kept h), List.filter_cons_of_pos htakes, ← ih]
      rfl
    | false =>
      obtain ⟨failure, hcopy⟩ := hd.refused htakes kept h
      rw [d.askEach_cons hcopy, List.filter_cons_of_neg (by simp [htakes]), ← ih]
      rfl

theorem writer_askEach (hd : d.Collects takes writerOf) :
    (d.askEach (writerOf []) h pages).2.1 =
      writerOf (Selection.ofList (pages.filter takes)).pages :=
  (hd.askEach_snd [] pages h).1

theorem output_eq (hd : d.Collects takes writerOf) :
    d.output (writerOf []) h pages =
      d.completed (writerOf (Selection.ofList (pages.filter takes)).pages) h := by
  rw [output, hd.writer_askEach]
  exact completed_congr _ (hd.askEach_snd [] pages h).2

theorem writesGranted (hd : d.Collects takes writerOf) (h : Host σ) :
    d.WritesGranted (writerOf []) h fun page => takes page = true where
  answer_iff pages a ha := hd.answer_iff ha
  output_refused before after page failure hrefused := by
    have hpage : takes page ≠ true := by
      intro htakes
      cases (hd.answer_iff (List.mem_of_getElem? hrefused)).mpr htakes
    rw [hd.output_eq, hd.output_eq, List.filter_append, List.filter_cons_of_neg hpage,
      List.filter_append]
  output_congr hgranted := by
    simp only [hd.granted_eq] at hgranted
    rw [hd.output_eq, hd.output_eq, Selection.ofList_congr hgranted]

end Collects

/-- What a new document comes to whose file is written in the end. If it succeeds, the content is at
the destination; it succeeds wherever a file can be written; and if the system refuses to write, the
failure says why, and the files stay as they are. -/
structure Leaves (files : FileTree) (destination : Path) (content : Text.Bytes)
    (cause : SystemError → Text) (ended : Except Failure Unit × FileTree) : Prop where
  found (hok : ended.1 = .ok ()) : ended.2.find destination = .ok (.file content)
  succeeds (hwritable : files.Writable destination) : ended.1 = .ok ()
  refused {e : SystemError} (hwrite : files.write destination content = .error e) :
    ended = (.error (.cannotWrite destination (cause e)), files)

theorem leaves_of_write {files : FileTree} {destination : Path} {content : Text.Bytes}
    {cause : SystemError → Text} {ended : Except Failure Unit × FileTree} (hcontent : content ≠ [])
    (hwritten : ∀ files', files.write destination content = .ok files' → ended = (.ok (), files'))
    (hrefused : ∀ e, files.write destination content = .error e →
      ended = (.error (.cannotWrite destination (cause e)), files)) :
    Leaves files destination content cause ended where
  found hok := by
    cases hwrite : files.write destination content with
    | ok files' =>
      rw [hwritten files' hwrite]
      exact FileTree.find_of_write hcontent hwrite
    | error e =>
      rw [hrefused e hwrite] at hok
      cases hok
  succeeds hwritable := by
    obtain ⟨files', hwrite⟩ := FileTree.write_of_writable hwritable content
    rw [hwritten files' hwrite]
  refused hwrite := hrefused _ hwrite

end Document

namespace StoredDocument

variable {σ : Type} (d : StoredDocument) (destination : Path)

theorem collects_toDocument :
    (d.toDocument (σ := σ)).Collects d.copies (Writer.mk destination) where
  taken htakes kept h := congrArg (·, h) (copyPage_of_copies htakes _)
  refused hrefuses kept h := by
    obtain ⟨failure, hcopy, -⟩ := copyPage_of_not_copies hrefuses { path := destination, kept }
    exact ⟨failure, congrArg (·, h) hcopy⟩

theorem leaves_completed (kept : List PageNumber) (h : Host σ) :
    Document.Leaves h.files destination
      (Text.encode (StoredPages.render (d.keptPages { path := destination, kept })))
      SystemError.message (d.toDocument.completed { path := destination, kept } h) := by
  refine Document.leaves_of_write (encode_render_ne_nil _) ?_ ?_
  · intro files' hwrite
    simp [Document.completed, toDocument, Host.afresh, writePages, hwrite]
  · intro e hwrite
    simp [Document.completed, toDocument, Host.afresh, writePages, hwrite]

/-- A writer that was asked for pages remembers some page numbers. In the end the pages of these
numbers are in its file, and are loaded from there. -/
structure WritesKept (d : StoredDocument) (destination : Path) (writer : Writer) (h : Host σ)
    (pages kept : List PageNumber) : Prop where
  remembers : (d.toDocument.askEach writer h pages).2.1 = { path := destination, kept }
  writes : ∃ written, PageNumber.Picks kept d.pages written ∧
    Document.Leaves h.files destination (Text.encode (StoredPages.render written))
      SystemError.message (d.toDocument.output writer h pages) ∧
    ((d.toDocument.output writer h pages).1 = .ok () →
      load (d.toDocument.output writer h pages).2 destination =
        .ok { path := destination, pages := written })

theorem writesKept (h : Host σ) (pages : List PageNumber) :
    d.WritesKept destination { path := destination } h pages
      (Selection.ofList (pages.filter d.copies)).pages where
  remembers := (d.collects_toDocument destination).writer_askEach
  writes := by
    refine ⟨_, PageNumber.picks_filterMap fun page hpage => ?_, ?_⟩
    · rw [Selection.mem_ofList, List.mem_filter, copies_iff] at hpage
      exact hpage.2.2
    · rw [(d.collects_toDocument destination).output_eq]
      have hleaves := d.leaves_completed destination
        (Selection.ofList (pages.filter d.copies)).pages h
      exact ⟨hleaves, fun hok => load_of_find (hleaves.found hok)⟩

end StoredDocument

namespace PdfDocument

variable {σ : Type} {lib : PdfLibrary} (hlib : lib.Lawful) (d : PdfDocument lib) (destination : Path)

/-- A writer that was asked for pages remembers some page numbers. In the end it saves a file that
has the pages of these numbers. -/
structure WritesKept (d : PdfDocument lib) (destination : Path) (writer : Writer) (h : Host σ)
    (pages kept : List PageNumber) : Prop where
  remembers : (d.toDocument.askEach writer h pages).2.1 = { path := destination, kept }
  writes : ∃ file, PageNumber.Picks kept (lib.pageIds d.file) (lib.pageIds file) ∧
    Document.Leaves h.files destination (lib.bytes file) (lib.causeOf file)
      (d.toDocument.output writer h pages)

include hlib

theorem collects_toDocument :
    (d.toDocument (σ := σ)).Collects (fun page => page.value ≤ d.pageCount)
      (Writer.mk destination) where
  taken htakes _ h := by
    have hpage := (d.mem_numbers hlib).mpr (of_decide_eq_true htakes)
    exact congrArg (·, h) (if_pos hpage)
  refused hrefuses _ h := by
    have hpage := mt (d.mem_numbers hlib).mp (of_decide_eq_false hrefuses)
    exact ⟨_, congrArg (·, h) (if_neg hpage)⟩

theorem leaves_completed (kept : List PageNumber) (h : Host σ) :
    Document.Leaves h.files destination (lib.bytes (d.keptFile { path := destination, kept }))
      (lib.causeOf (d.keptFile { path := destination, kept }))
      (d.toDocument.completed { path := destination, kept } h) := by
  refine Document.leaves_of_write (hlib.written _) ?_ ?_
  · intro files' hwrite
    simp [Document.completed, toDocument, finish, Host.afresh, Host.note, hwrite, hlib.saves]
  · intro e hwrite
    simp [Document.completed, toDocument, finish, Host.afresh, hwrite]

theorem writesKept (h : Host σ) (pages : List PageNumber) :
    d.WritesKept destination { path := destination } h pages
      (Selection.ofList (pages.filter fun page => page.value ≤ d.pageCount)).pages where
  remembers := (d.collects_toDocument hlib destination).writer_askEach
  writes := by
    refine ⟨_, d.picks_keptFile hlib destination (Selection.ofList _).ascending ?_, ?_⟩
    · intro page hpage
      rw [Selection.mem_ofList, List.mem_filter, decide_eq_true_eq] at hpage
      exact hpage.2
    · rw [(d.collects_toDocument hlib destination).output_eq]
      exact d.leaves_completed hlib destination _ h

end PdfDocument

/-- A writer of stored pages grants the pages that are there and not damaged, and in the end it
writes the granted pages, each once and in their order. A writer of a PDF file with as many pages
grants the same pages if none is damaged, and its file is left with the pages of the same numbers,
whatever library saves it. -/
theorem writers_keep_same_pages {σ : Type} {stored : StoredDocument} {destination : Path}
    {h₀ h : Host σ} {writer : StoredDocument.Writer}
    (hcreate : stored.toDocument.create destination h₀ = (.ok writer, h)) :
    stored.toDocument.WritesGranted writer h
        (fun page => page.value ≤ stored.pages.length ∧ page ∉ stored.damaged) ∧
      ∀ pages, ∃ kept, kept.Pairwise (· < ·) ∧
        (∀ page, page ∈ kept ↔ page ∈ stored.toDocument.granted writer h pages) ∧
        stored.WritesKept destination writer h pages kept ∧
        ∀ {lib : PdfLibrary} {pdf : PdfDocument lib} {pdfDestination : Path} {g₀ g : Host σ}
          {pdfWriter : PdfDocument.Writer}, lib.Lawful →
          pdf.toDocument.create pdfDestination g₀ = (.ok pdfWriter, g) →
          (lib.pages pdf.file).length = stored.pages.length → stored.damaged = [] →
            pdf.toDocument.granted pdfWriter g pages = stored.toDocument.granted writer h pages ∧
              pdf.WritesKept pdfDestination pdfWriter g pages kept := by
  obtain rfl := StoredDocument.eq_of_create (congrArg Prod.fst hcreate)
  have hstored := stored.collects_toDocument (σ := σ) destination
  have hcopies (page : PageNumber) : stored.copies page = true ↔
      page.value ≤ stored.pages.length ∧ page ∉ stored.damaged := by
    rw [StoredDocument.copies_iff, PageNumber.offset_lt_iff, and_comm]
  refine ⟨?_, fun pages => ?_⟩
  · simpa only [hcopies] using hstored.writesGranted h
  refine ⟨_, Selection.ascending _, fun page => ?_, stored.writesKept destination h pages, ?_⟩
  · rw [Selection.mem_ofList, hstored.granted_eq]
  · intro lib pdf pdfDestination g₀ g pdfWriter hlib hpdfCreate hlength hdamaged
    obtain rfl := PdfDocument.eq_of_create (congrArg Prod.fst hpdfCreate)
    have hsame : pages.filter (fun page => page.value ≤ pdf.pageCount) =
        pages.filter stored.copies := by
      refine List.filter_congr fun page _ => ?_
      rw [Bool.eq_iff_iff, hcopies, hdamaged, ← hlength, decide_eq_true_eq]
      simp [PdfDocument.pageCount]
    constructor
    · rw [(pdf.collects_toDocument hlib pdfDestination).granted_eq, hstored.granted_eq, hsame]
    · rw [← hsame]
      exact pdf.writesKept hlib pdfDestination g pages

def threeNotes : StoredDocument := .ofTexts (.ofText "/notes") ["a", "b", "c"]

def threePages : PdfDocument PdfFile.library where
  path := .ofText "/notes.pdf"
  file := PdfFile.ofPages
    [(["a"], "WinAnsiEncoding"), (["b"], "WinAnsiEncoding"), (["c"], "Identity-H")]

/-- The third page is asked for twice, and there is no ninth one. -/
theorem writers_keep_same_pages_threeNotes :
    let host : Host Unit := { files := {}, outside := () }
    let destination := Path.ofText "/copy"
    let notes := threeNotes.toDocument.create destination host
    let pages := threePages.toDocument.create destination host
    let one : PageNumber := ⟨1, by decide, by decide⟩
    let three : PageNumber := ⟨3, by decide, by decide⟩
    let nine : PageNumber := ⟨9, by decide, by decide⟩
    notes.1 = .ok { path := destination } ∧ pages.1 = .ok { path := destination } ∧
      threeNotes.toDocument.granted { path := destination } notes.2 [three, nine, one, three] =
        [three, one, three] ∧
      threeNotes.WritesKept destination { path := destination } notes.2 [three, nine, one, three]
        [one, three] ∧
      threePages.WritesKept destination { path := destination } pages.2 [three, nine, one, three]
        [one, three] := by
  intro host destination notes pages one three nine
  have hnotes : notes.1 = .ok { path := destination } := by decide +kernel
  have hpages : pages.1 = .ok { path := destination } := by decide +kernel
  have hgranted : threeNotes.toDocument.granted { path := destination } notes.2
      [three, nine, one, three] = [three, one, three] := by decide +kernel
  obtain ⟨-, hcalls⟩ := writers_keep_same_pages (Prod.ext hnotes rfl : notes = (_, notes.2))
  obtain ⟨kept, hasc, hmem, hstored, hpdf⟩ := hcalls [three, nine, one, three]
  have hkept : kept = [one, three] := by
    refine hasc.eq_of_mem_iff (by decide) fun page => ?_
    rw [hmem, hgranted]
    simp only [List.mem_cons, List.not_mem_nil, or_false]
    tauto
  subst hkept
  refine ⟨hnotes, hpages, hgranted, hstored, ?_⟩
  have hcreated : pages = (_, pages.2) := Prod.ext hpages rfl
  exact (hpdf PdfFile.library_lawful hcreated rfl rfl).2

end PageQuery
