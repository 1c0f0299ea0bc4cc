import PageQuery.Document.Basic
import PageQuery.Proofs.Files.Changes

/-!
What the writers of a document may do to the files. A writer belongs to the destination it was
started for, and every call of it has the files before and after it in one relation.
-/
namespace PageQuery.Document

variable {σ ω : Type}

/-- The states of a writer for a destination: as it was started, and after pages were copied. -/
inductive Writing (d : Document σ ω) (destination : Path) : ω → Prop
  | started {h : Host σ} {writer : ω} (hcreate : (d.create destination h).1 = .ok writer) :
      Writing d destination writer
  | copied {writer : ω} (page : PageNumber) (h : Host σ) (hwriter : Writing d destination writer) :
      Writing d destination (d.copyPage page writer h).1.2

/-- Each call of a writer, whether it fails or not, changes the files only in a way that depends on
the destination. -/
structure WritesBy (d : Document σ ω) (Changes : Path → FileTree → FileTree → Prop) : Prop where
  create (destination : Path) (h : Host σ) :
    Changes destination h.files (d.create destination h).2.files
  copyPage {destination : Path} {writer : ω} (hwriter : d.Writing destination writer)
    (page : PageNumber) (h : Host σ) :
    Changes destination h.files (d.copyPage page writer h).2.files
  finish {destination : Path} {writer : ω} (hwriter : d.Writing destination writer) (h : Host σ) :
    Changes destination h.files (d.finish writer h).2.files

theorem WritesBy.mono {d : Document σ ω} {Changes Changes' : Path → FileTree → FileTree → Prop}
    (h : d.WritesBy Changes) (himp : ∀ {path t t'}, Changes path t t' → Changes' path t t') :
    d.WritesBy Changes' :=
  ⟨fun destination host => himp (h.create destination host),
    fun hwriter page host => himp (h.copyPage hwriter page host),
    fun hwriter host => himp (h.finish hwriter host)⟩

/-- Writers that make a single file. Only the file at the destination is changed, and it is there
when the new document is complete, unless something else stood in its place. -/
structure SavesFile (d : Document σ ω) : Prop extends d.WritesBy FileTree.ChangesFileAt where
  saved {destination : Path} {writer : ω} (hwriter : d.Writing destination writer) (h : Host σ)
    (hholds : ∀ key, h.files.writingPlace destination = .ok key → h.files.HoldsAtMostFile key)
    (hfinish : (d.finish writer h).1 = .ok ()) :
    (d.finish writer h).2.files.isFile destination = true

/-- Writers that remember the destination, make its file at once, and write it when the document is
complete. -/
theorem savesFile_of_write {d : Document σ ω} (pathOf : ω → Path)
    (hstarted : ∀ destination h writer, (d.create destination h).1 = .ok writer →
      pathOf writer = destination)
    (hcreate : ∀ destination h, (d.create destination h).2.files = h.files ∨
      h.files.create destination = .ok (d.create destination h).2.files)
    (hcopied : ∀ page writer h, pathOf (d.copyPage page writer h).1.2 = pathOf writer ∧
      (d.copyPage page writer h).2.files = h.files)
    (hfinish : ∀ writer h,
      ((d.finish writer h).1 ≠ .ok () ∧ (d.finish writer h).2.files = h.files) ∨
      ∃ content, h.files.write (pathOf writer) content = .ok (d.finish writer h).2.files) :
    d.SavesFile := by
  have hpath {destination : Path} {writer : ω} (hwriter : d.Writing destination writer) :
      pathOf writer = destination := by
    induction hwriter with
    | started h => exact hstarted _ _ _ h
    | copied page h _ ih => rw [(hcopied page _ h).1, ih]
  constructor
  · constructor
    · intro destination h
      rcases hcreate destination h with hsame | hcreated
      · rw [hsame]
        exact FileTree.changesFileAt_refl destination h.files
      · exact FileTree.changesFileAt_create hcreated
    · intro destination writer _ page h
      rw [(hcopied page writer h).2]
      exact FileTree.changesFileAt_refl destination h.files
    · intro destination writer hwriter h
      rcases hfinish writer h with ⟨-, hsame⟩ | ⟨content, hwritten⟩
      · rw [hsame]
        exact FileTree.changesFileAt_refl destination h.files
      · rw [hpath hwriter] at hwritten
        exact FileTree.changesFileAt_write hwritten
  · intro destination writer hwriter h hholds hok
    rcases hfinish writer h with ⟨hfails, -⟩ | ⟨content, hwritten⟩
    · exact absurd hok hfails
    · rw [hpath hwriter] at hwritten
      exact FileTree.isFile_of_write hholds hwritten

end PageQuery.Document
