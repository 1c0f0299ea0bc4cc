import PageQuery.Document.Stored
import PageQuery.Proofs.Action.Copying
import PageQuery.Proofs.Document.StoredPages
import PageQuery.Proofs.Files.Tree
import PageQuery.Proofs.Scan

/-!
Documents of stored pages: what a writer keeps, and that a document that was written is loaded with
the pages it was written with.
-/
namespace PageQuery.StoredDocument

theorem encode_render_ne_nil (pages : List StoredPage) :
    Text.encode (StoredPages.render pages) ≠ [] := by
  obtain ⟨w, -, hrender, -⟩ := StoredPages.exists_writes_list pages
  have hlength := Text.length_le_length_encode (StoredPages.render pages)
  intro hnil
  rw [hnil, hrender] at hlength
  simp at hlength

theorem writePages_eq_ok_iff {files files' : FileTree} {path : Path} {pages : List StoredPage} :
    writePages files path pages = .ok files' ↔
      files.write path (Text.encode (StoredPages.render pages)) = .ok files' := by
  unfold writePages
  cases files.write path (Text.encode (StoredPages.render pages)) <;> simp

theorem load_of_find {files : FileTree} {path : Path} {pages : List StoredPage}
    (h : files.find path = .ok (.file (Text.encode (StoredPages.render pages)))) :
    load files path = .ok { path, pages } := by
  simp only [load, FileTree.isFile_of_find h, FileTree.read_of_find h,
    StoredPages.parse_encode_render, ↓reduceIte]

/-- Pages that were written are there. -/
theorem load_of_writePages {files files' : FileTree} {path : Path} {pages : List StoredPage}
    (h : writePages files path pages = .ok files') : load files' path = .ok { path, pages } :=
  load_of_find (FileTree.find_of_write (encode_render_ne_nil pages) (writePages_eq_ok_iff.mp h))

def copies (d : StoredDocument) (page : PageNumber) : Bool :=
  page ∉ d.damaged && decide (page.offset < d.pages.length)

theorem copies_iff {d : StoredDocument} {page : PageNumber} :
    d.copies page = true ↔ page ∉ d.damaged ∧ page.offset < d.pages.length := by
  simp only [copies, Bool.and_eq_true, decide_eq_true_eq]

theorem copyPage_of_copies {d : StoredDocument} {page : PageNumber} (h : d.copies page = true)
    (w : Writer) : d.copyPage page w = (.ok (), { w with kept := page.insert w.kept }) := by
  obtain ⟨hdamaged, hoffset⟩ := copies_iff.mp h
  rw [copyPage, if_neg hdamaged, if_neg (by omega)]

/-- A page that cannot be copied is a failure that the work goes on after. -/
theorem copyPage_of_not_copies {d : StoredDocument} {page : PageNumber} (h : d.copies page = false)
    (w : Writer) :
    ∃ failure, d.copyPage page w = (.error failure, w) ∧ failure.isRecoverable = true := by
  unfold copyPage
  split_ifs with h1 h2
  · exact ⟨_, rfl, rfl⟩
  · exact ⟨_, rfl, rfl⟩
  · have hcopies : d.copies page = true := copies_iff.mpr ⟨h1, by omega⟩
    rw [hcopies] at h
    cases h

/-- A writer whose pages all exist writes one page for each of them, in their order. -/
theorem map_some_keptPages {d : StoredDocument} {w : Writer}
    (h : ∀ page ∈ w.kept, page.offset < d.pages.length) :
    (d.keptPages w).map some = w.kept.map fun page => d.pages[page.offset]? :=
  PageNumber.picks_filterMap h

/-- If all pages that a writer keeps have texts of some kind, it writes nothing else. -/
theorem exists_text_of_mem_keptPages {d : StoredDocument} {w : Writer} {P : Text → Prop}
    (h : ∀ page ∈ w.kept, ∃ t, d.extractText page = .ok t ∧ P t) {stored : StoredPage}
    (hstored : stored ∈ d.keptPages w) : ∃ t, stored = .text t ∧ P t := by
  obtain ⟨page, hpage, hstored⟩ := List.mem_filterMap.mp hstored
  obtain ⟨t, htext, ht⟩ := h page hpage
  rw [extractText, hstored] at htext
  cases stored with
  | text _ =>
    cases htext
    exact ⟨t, rfl, ht⟩
  | unreadable _ => cases htext

/-- The pages that a writer keeps once it was asked to copy more pages. -/
def keptAfter (d : StoredDocument) (kept pages : List PageNumber) : List PageNumber :=
  (pages.filter d.copies).foldl (fun kept page => page.insert kept) kept

theorem keptAfter_cons_of_copies {d : StoredDocument} {page : PageNumber} (h : d.copies page = true)
    (kept more : List PageNumber) :
    d.keptAfter kept (page :: more) = d.keptAfter (page.insert kept) more := by
  rw [keptAfter, List.filter_cons_of_pos h, List.foldl_cons, keptAfter]

theorem keptAfter_cons_of_not_copies {d : StoredDocument} {page : PageNumber}
    (h : d.copies page = false) (kept more : List PageNumber) :
    d.keptAfter kept (page :: more) = d.keptAfter kept more := by
  rw [keptAfter, List.filter_cons_of_neg (by simp [h]), keptAfter]

/-- Pages that come in ascending order are kept in that order. -/
theorem keptAfter_of_ascending {d : StoredDocument} {pages : List PageNumber}
    (h : pages.Pairwise (· < ·)) : d.keptAfter [] pages = pages.filter d.copies :=
  congrArg Selection.pages (Selection.ofList_of_ascending (h.filter d.copies))

variable {σ : Type} (d : StoredDocument)

/-- Copying changes only what the writer remembers. -/
theorem run_ask_copyPage (page : PageNumber) (w : Writer) (s : Session σ) :
    (Session.ask (.copyPage page) (d.toDocument.copyPage page w)).run s =
      (d.copyPage page w, s.marked (.copyPage page)) :=
  Session.run_ask_of_idle (fun _ => rfl) _ s

/-- Copying goes through all pages and keeps those that can be copied. -/
theorem run_copyPages (destination : Path) (w : Writer) (copied : CopyReport)
    (pages : List PageNumber) (s : Session σ) :
    ∃ s', (d.toDocument.copyPages destination w copied pages).run s =
      ((.ok { copied := copied.copied ++ pages.filter d.copies
              skipped := copied.skipped ++ pages.filter fun page => !d.copies page },
        { w with kept := d.keptAfter w.kept pages }), s') ∧ s'.files = s.files := by
  induction pages generalizing w copied s with
  | nil =>
    refine ⟨s, ?_, rfl⟩
    simp only [List.filter_nil, List.append_nil]
    rfl
  | cons page more ih =>
    have hask := d.run_ask_copyPage page w s
    cases hcopies : d.copies page with
    | true =>
      rw [copyPage_of_copies hcopies] at hask
      obtain ⟨s', hrun, hfiles⟩ := ih { w with kept := page.insert w.kept }
        { copied with copied := copied.copied ++ [page] } (s.marked (.copyPage page))
      refine ⟨s', ?_, hfiles⟩
      rw [Document.run_copyPages_ok _ destination hask, hrun, keptAfter_cons_of_copies hcopies]
      simp [hcopies]
    | false =>
      obtain ⟨failure, hcopy, hrecoverable⟩ := copyPage_of_not_copies hcopies w
      rw [hcopy] at hask
      obtain ⟨s', hrun, hfiles⟩ := ih w { copied with skipped := copied.skipped ++ [page] }
        ((s.marked (.copyPage page)).withEntries (skipEntries destination page failure))
      refine ⟨s', ?_, hfiles⟩
      rw [Document.run_copyPages_skip _ destination hask hrecoverable, hrun,
        keptAfter_cons_of_not_copies hcopies]
      simp [hcopies]

variable {d}

/-- A new document is started with no pages. -/
theorem eq_of_create {destination : Path} {w : Writer} {h : Host σ}
    (hcreate : (d.toDocument.create destination h).1 = .ok w) : w = { path := destination } := by
  simp only [toDocument] at hcreate
  split at hcreate <;> cases hcreate
  rfl

theorem writer_of_create {destination : Path} {w : Writer} {s s' : Session σ}
    (h : (Session.ask (.create destination) (d.toDocument.create destination)).run s =
      (.ok w, s')) : w = { path := destination } :=
  eq_of_create (Session.result_of_ask h)

/-- A new document is completed by writing the pages kept. -/
theorem writePages_of_finish {w : Writer} {s s' : Session σ}
    (h : (Session.ask .finish (d.toDocument.finish w)).run s = (.ok (), s')) :
    writePages s.files w.path (d.keptPages w) = .ok s'.files := by
  have hresult := Session.result_of_ask h
  have hfiles := Session.files_of_ask h
  simp only [toDocument, Session.host_files] at hresult hfiles
  split at hresult <;> cases hresult
  next hwrite =>
    rw [hwrite] at hfiles
    rw [hwrite, hfiles]

/-- What was copied depends on the pages that were selected only, and so does the file that is
written. -/
theorem written_of_run_copySelected {destination : Path} {selected : Selection}
    {copied : CopyReport} {s s' : Session σ}
    (h : (d.toDocument.copySelected destination selected).run s = (.ok copied, s')) :
    copied = { copied := selected.pages.filter d.copies
               skipped := selected.pages.filter fun page => !d.copies page } ∧
      ∃ files, writePages files destination
        (d.keptPages { path := destination, kept := d.keptAfter [] selected.pages }) =
          .ok s'.files := by
  cases Document.selectionRun_of_run h with
  | completed hcreate hpages hfinish =>
    obtain rfl := writer_of_create hcreate
    obtain ⟨s₂, hrun, -⟩ :=
      d.run_copyPages destination { path := destination } {} selected.pages _
    rw [Document.copyRun_iff, hrun] at hpages
    cases hpages
    exact ⟨rfl, _, writePages_of_finish hfinish⟩

/-- The file of a new document holds the same, wherever it is. -/
theorem find_of_run_copySelected {destination : Path} {selected : Selection} {copied : CopyReport}
    {s s' : Session σ}
    (h : (d.toDocument.copySelected destination selected).run s = (.ok copied, s')) :
    s'.files.find destination = .ok (.file (Text.encode (StoredPages.render
      ((d.keptAfter [] selected.pages).filterMap fun page => d.pages[page.offset]?)))) := by
  obtain ⟨-, files, hwrite⟩ := written_of_run_copySelected h
  exact FileTree.find_of_write (encode_render_ne_nil _) (writePages_eq_ok_iff.mp hwrite)

/-- Selected pages that were copied are in the new document, in their order. -/
theorem run_copySelected_ok {destination : Path} {selected : Selection} {copied : CopyReport}
    {s s' : Session σ}
    (h : (d.toDocument.copySelected destination selected).run s = (.ok copied, s')) :
    copied.copied = selected.pages.filter d.copies ∧
      copied.skipped = selected.pages.filter (fun page => !d.copies page) ∧
      load s'.files destination =
        .ok { path := destination
              pages := d.keptPages { path := destination, kept := copied.copied } } := by
  obtain ⟨rfl, files, hwrite⟩ := written_of_run_copySelected h
  refine ⟨rfl, rfl, ?_⟩
  rw [load_of_writePages hwrite, keptAfter_of_ascending selected.ascending]

/-- Selected pages are copied to every path where a file can be made. -/
theorem run_copySelected_of_writable {s : Session σ} {destination : Path}
    (hwritable : s.files.Writable destination) (selected : Selection) :
    ∃ copied s', (d.toDocument.copySelected destination selected).run s = (.ok copied, s') := by
  obtain ⟨made, hmade, hagain⟩ := FileTree.create_of_writable hwritable
  obtain ⟨written, hwritten⟩ := FileTree.write_of_writable hagain
    (Text.encode (StoredPages.render
      (d.keptPages { path := destination, kept := d.keptAfter [] selected.pages })))
  rcases hrun : (d.toDocument.copySelected destination selected).run s with ⟨result, s'⟩
  have hcreated {created : Except Failure Writer} {s₁ : Session σ}
      (hcreate : (Session.ask (.create destination) (d.toDocument.create destination)).run
        (s.withEntries [.line (copyingLine selected)]) = (created, s₁)) :
      created = .ok { path := destination } ∧ s₁.files = made := by
    have hresult := Session.result_of_ask hcreate
    have hfiles := Session.files_of_ask hcreate
    simp only [toDocument, Session.host_files, Session.withEntries_files, hmade] at hresult hfiles
    exact ⟨hresult.symm, hfiles⟩
  cases Document.selectionRun_of_run hrun with
  | completed => exact ⟨_, _, rfl⟩
  | notStarted hcreate => cases (hcreated hcreate).1
  | stopped hcreate hpages =>
    obtain ⟨s₂, hpages', -⟩ := d.run_copyPages destination _ {} selected.pages _
    rw [Document.copyRun_iff, hpages'] at hpages
    cases hpages
  | notCompleted hcreate hpages hfinish =>
    obtain ⟨hwriter, hfiles⟩ := hcreated hcreate
    cases hwriter
    obtain ⟨s₂, hpages', hsame⟩ := d.run_copyPages destination _ {} selected.pages _
    rw [Document.copyRun_iff, hpages'] at hpages
    cases hpages
    have hresult := Session.result_of_ask hfinish
    simp only [toDocument, Session.host_files, hsame, hfiles, writePages, hwritten] at hresult
    cases hresult

/-- Where no file can be made, nothing is copied. -/
theorem run_copySelected_of_create_error {s : Session σ} {destination : Path} {e : SystemError}
    (hcreate : s.files.create destination = .error e) (selected : Selection) :
    ∃ s', (d.toDocument.copySelected destination selected).run s =
      (.error (.cannotWrite destination e.message), s') ∧ s'.files = s.files := by
  rcases hrun : (d.toDocument.copySelected destination selected).run s with ⟨result, s'⟩
  have hfailed {created : Except Failure Writer} {s₁ : Session σ}
      (hask : (Session.ask (.create destination) (d.toDocument.create destination)).run
        (s.withEntries [.line (copyingLine selected)]) = (created, s₁)) :
      created = .error (.cannotWrite destination e.message) ∧ s₁.files = s.files := by
    have hresult := Session.result_of_ask hask
    have hfiles := Session.files_of_ask hask
    simp only [toDocument, Session.host_files, Session.withEntries_files, hcreate] at hresult hfiles
    exact ⟨hresult.symm, hfiles⟩
  cases Document.selectionRun_of_run hrun with
  | notStarted hask =>
    obtain ⟨hfailure, hfiles⟩ := hfailed hask
    cases hfailure
    exact ⟨s', rfl, hfiles⟩
  | stopped hask | notCompleted hask | completed hask => cases (hfailed hask).1

/-! ### What a writer does to the files -/

theorem path_copyPage (d : StoredDocument) (page : PageNumber) (w : Writer) :
    (d.copyPage page w).2.path = w.path := by
  cases hcopies : d.copies page with
  | true => rw [copyPage_of_copies hcopies]
  | false =>
    obtain ⟨failure, hcopy, -⟩ := copyPage_of_not_copies hcopies w
    rw [hcopy]

variable (d) in
/-- New documents of stored pages are single files. -/
theorem savesFile_toDocument : (d.toDocument (σ := σ)).SavesFile := by
  refine Document.savesFile_of_write Writer.path ?_ ?_ ?_ ?_
  · intro destination h w hcreate
    exact congrArg Writer.path (eq_of_create hcreate)
  · intro destination h
    simp only [toDocument]
    cases h.files.create destination with
    | error e => exact .inl rfl
    | ok files => exact .inr rfl
  · exact fun page w h => ⟨d.path_copyPage page w, rfl⟩
  · intro w h
    simp only [toDocument]
    cases hwrite : writePages h.files w.path (d.keptPages w) with
    | error failure => exact .inl ⟨nofun, rfl⟩
    | ok files => exact .inr ⟨_, writePages_eq_ok_iff.mp hwrite⟩

end PageQuery.StoredDocument
