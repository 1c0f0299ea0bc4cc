import PageQuery.Document.Scripted
import PageQuery.Proofs.Document.Writing

/-!
Scripted documents: whatever fails, they keep to the path that they are given.
-/
namespace PageQuery.ScriptedDocument

variable {σ : Type} {d : ScriptedDocument}

theorem path_of_writing {destination : Path} {w : Writer}
    (h : (d.toDocument (σ := σ)).Writing destination w) : w.path = destination := by
  induction h with
  | @started h w hcreate =>
    simp only [toDocument] at hcreate
    split at hcreate
    · cases hcreate
    · split at hcreate <;> cases hcreate
      rfl
  | @copied w page h _ ih =>
    rw [← ih]
    simp only [toDocument]
    split <;> rfl

/-- What a complete new document changes is one file. -/
theorem changesFileAt_finish {destination : Path} {w : Writer}
    (hwriter : (d.toDocument (σ := σ)).Writing destination w) (h : Host σ) :
    h.files.ChangesFileAt destination ((d.toDocument (σ := σ)).finish w h).2.files := by
  obtain rfl := path_of_writing hwriter
  have hsame := FileTree.changesFileAt_refl w.path h.files
  simp only [toDocument]
  split
  · exact hsame
  · split
    · split
      · next hwrite => exact FileTree.changesFileAt_write hwrite
      · exact hsame
    · exact hsame

/-- A scripted document that makes no directory changes a file at most. -/
theorem writesBy_toDocument (hcreates : d.creates ≠ .directory) :
    (d.toDocument (σ := σ)).WritesBy FileTree.ChangesFileAt where
  create destination h := by
    have hsame := FileTree.changesFileAt_refl destination h.files
    simp only [toDocument]
    split
    · exact hsame
    · split
      · next files hcreated =>
        cases hkind : d.creates with
        | file =>
          rw [hkind] at hcreated
          exact FileTree.changesFileAt_write hcreated
        | nothing =>
          rw [hkind] at hcreated
          cases hcreated
          exact hsame
        | directory => exact absurd hkind hcreates
      · exact hsame
  copyPage _ page h := by
    simp only [toDocument]
    split <;> exact FileTree.changesFileAt_refl _ h.files
  finish hwriter h := changesFileAt_finish hwriter h

end PageQuery.ScriptedDocument
