import PageQuery.Document.Pdf
import PageQuery.Proofs.Document.Writing
import PageQuery.Proofs.Page.Selection

/-!
Documents in PDF files: how they are opened, which pages a writer leaves, and what it does to the
files.
-/
namespace PageQuery.PdfDocument

variable {lib : PdfLibrary} {σ : Type}

/-- How a document is opened: from a file as it is, or from a locked one that needs no password. -/
inductive OpensAt : PdfDocument lib → FileTree → Path → Prop
  | plain {files : FileTree} {path : Path} {file : lib.File} (hfile : files.isFile path = true)
      (hload : lib.load (files.read path) = .ok file) (hplain : lib.isEncrypted file = false) :
      OpensAt { path, file } files path
  | unlocked {files : FileTree} {path : Path} {locked file : lib.File}
      (hfile : files.isFile path = true) (hload : lib.load (files.read path) = .ok locked)
      (hlocked : lib.isEncrypted locked = true) (hunlock : lib.decrypt locked [] = .ok file) :
      OpensAt { path, file } files path

theorem load_eq_ok_iff {files : FileTree} {path : Path} {d : PdfDocument lib} :
    load lib files path = .ok d ↔ d.OpensAt files path := by
  constructor
  · intro h
    unfold load at h
    split at h
    · next hfile =>
      split at h
      · cases h
      · next hload =>
        split at h
        · next hlocked =>
          split at h
          · cases h
          · next hunlock =>
            cases h
            exact .unlocked hfile hload hlocked hunlock
        · next hplain =>
          cases h
          exact .plain hfile hload (Bool.eq_false_iff.mpr hplain)
    · cases h
  · rintro (⟨hfile, hload, hplain⟩ | ⟨hfile, hload, hlocked, hunlock⟩)
    · simp [load, hfile, hload, hplain]
    · simp [load, hfile, hload, hlocked, hunlock]

theorem load_of_not_isFile {files : FileTree} {path : Path} (h : files.isFile path = false) :
    load lib files path = .error (.sourceNotFound path) := by
  rw [load, h]
  rfl

theorem path_copyPage (d : PdfDocument lib) (page : PageNumber) (w : Writer) :
    (d.copyPage page w).2.path = w.path := by
  unfold copyPage
  split_ifs <;> rfl

/-- A new document is started with no pages. -/
theorem eq_of_create {d : PdfDocument lib} {destination : Path} {w : Writer} {h : Host σ}
    (hcreate : (d.toDocument.create destination h).1 = .ok w) : w = { path := destination } := by
  simp only [toDocument] at hcreate
  split at hcreate <;> cases hcreate
  rfl

/-- New PDF files are single files, whatever the library makes of them. -/
theorem savesFile_toDocument (d : PdfDocument lib) : (d.toDocument (σ := σ)).SavesFile := by
  refine Document.savesFile_of_write Writer.path ?_ ?_ ?_ ?_
  · intro destination h w hcreate
    exact congrArg Writer.path (eq_of_create hcreate)
  · intro destination h
    simp only [toDocument]
    cases h.files.create destination with
    | error e => exact .inl rfl
    | ok files => exact .inr rfl
  · exact fun page w h => ⟨d.path_copyPage page w, rfl⟩
  · intro w h
    simp only [toDocument, finish]
    cases hwrite : h.files.write w.path (lib.bytes (d.keptFile w)) with
    | error e => exact .inl ⟨nofun, rfl⟩
    | ok files =>
      -- the file is written, also if saving breaks off
      refine .inr ⟨_, hwrite.trans ?_⟩
      cases lib.saved (d.keptFile w) (.ok ()) <;> rfl

section Lawful

variable (hlib : lib.Lawful) (d : PdfDocument lib)
include hlib

theorem mem_numbers {page : PageNumber} : page ∈ d.numbers ↔ page.value ≤ d.pageCount := by
  rw [numbers, hlib.numbered, PageNumber.mem_range, pageCount]

/-- A page stands at the place that its number gives. -/
theorem getElem?_pageIds {page : PageNumber × lib.PageId} (hpage : page ∈ lib.pages d.file) :
    (lib.pageIds d.file)[page.1.offset]? = some page.2 := by
  obtain ⟨n, hn, rfl⟩ := List.getElem_of_mem hpage
  have hnumbered := hlib.numbered d.file
  have hlength := congrArg List.length hnumbered
  rw [List.length_map, PageNumber.length_range] at hlength
  have hbound : 0 < Word.bound32 := by decide
  have hcount : (lib.pages d.file).length < Word.bound32 := by omega
  have hvalues := PageNumber.map_value_range hcount
  rw [← hnumbered, List.map_map] at hvalues
  have hvalue : ((lib.pages d.file)[n]).1.value = 1 + n := by
    have hat := congrArg (·[n]?) hvalues
    simpa [List.getElem?_range', hn] using hat
  rw [PageNumber.offset, hvalue, Nat.add_sub_cancel_left, PdfLibrary.pageIds, List.getElem?_map,
    List.getElem?_eq_getElem hn]
  rfl

/-- A writer's file has the pages of the numbers that it keeps, if there are such pages. -/
theorem picks_keptFile {kept : List PageNumber} (destination : Path)
    (hasc : kept.Pairwise (· < ·)) (hthere : ∀ page ∈ kept, page.value ≤ d.pageCount) :
    PageNumber.Picks kept (lib.pageIds d.file)
      (lib.pageIds (d.keptFile { path := destination, kept })) := by
  let left := (lib.pages d.file).filter fun page => page.1 ∈ kept
  -- a page that there is is left out iff it is not kept
  have hpages : lib.pageIds (d.keptFile { path := destination, kept }) = left.map (·.2) := by
    rw [keptFile, hlib.compressed, hlib.pruned, hlib.deleted]
    refine congrArg (List.map _) (List.filter_congr fun page hpage => ?_)
    have hnumber : page.1 ∈ d.numbers := List.mem_map_of_mem hpage
    simp [droppedPages, hnumber]
  have hnumbers : left.map (·.1) = kept := by
    have hleft : left.map (·.1) = d.numbers.filter (· ∈ kept) := by
      rw [numbers, List.filter_map]
      rfl
    rw [hleft]
    refine List.Pairwise.eq_of_mem_iff (List.Pairwise.filter _ ?_) hasc fun page => ?_
    · rw [numbers, hlib.numbered]
      exact PageNumber.pairwise_range _
    · simp only [List.mem_filter, d.mem_numbers hlib, decide_eq_true_eq]
      exact ⟨And.right, fun hkept => ⟨hthere page hkept, hkept⟩⟩
  rw [PageNumber.Picks, hpages, ← hnumbers, List.map_map, List.map_map]
  refine List.map_congr_left fun page hpage => ?_
  exact (d.getElem?_pageIds hlib (List.mem_of_mem_filter hpage)).symm

end Lawful

end PageQuery.PdfDocument
