import Mathlib.Tactic.SplitIfs
import PageQuery.Files.Tree
import PageQuery.Proofs.Except

/-!
Trees of files: what putting a node at a place changes, what paths still mean after it, and that a
file that was written is read back.
-/
namespace PageQuery.FileTree

open Text (Bytes)

@[simp] theorem node?_root (t : FileTree) : t.node? [] = some .directory := rfl

theorem node?_of_ne_nil (t : FileTree) {key : TreeKey} (h : key ≠ []) :
    t.node? key = t.entries.lookup key := if_neg h

theorem lookup_cons_of_ne {key other : TreeKey} (h : other ≠ key) (node : FileNode)
    (rest : List (TreeKey × FileNode)) :
    List.lookup other ((key, node) :: rest) = List.lookup other rest := by
  rw [List.lookup_cons, beq_eq_false_iff_ne.mpr h]

theorem lookup_map_put (entries : List (TreeKey × FileNode)) (key other : TreeKey)
    (node : FileNode) :
    (entries.map fun e => if e.1 = key then (key, node) else e).lookup other =
      if other = key then (entries.lookup key).map fun _ => node else entries.lookup other := by
  induction entries with
  | nil => simp
  | cons e rest ih =>
    obtain ⟨k, old⟩ := e
    rw [List.map_cons]
    by_cases hk : k = key
    · subst hk
      by_cases ho : other = k
      · simp [ho]
      · simp [ho, lookup_cons_of_ne, ih]
    · by_cases ho : other = k
      · subst ho
        simp [hk]
      · simp [hk, lookup_cons_of_ne ho, lookup_cons_of_ne (Ne.symm hk), ih]

/-- A node that is put stands at its place; every other place is as before. -/
theorem node?_put (t : FileTree) {key : TreeKey} (h : key ≠ []) (node : FileNode)
    (other : TreeKey) :
    (t.put key node).node? other = if other = key then some node else t.node? other := by
  by_cases hroot : other = []
  · subst hroot
    simp [Ne.symm h]
  rw [node?_of_ne_nil _ hroot, node?_of_ne_nil _ hroot, put]
  have hthere : t.entries.any (·.1 = key) = (t.entries.lookup key).isSome := by
    rw [Bool.eq_iff_iff, List.lookup_isSome_iff]
    simp only [List.any_eq_true, decide_eq_true_eq, beq_iff_eq, @eq_comm _ key]
  rw [hthere]
  cases hlookup : t.entries.lookup key with
  | some old => simp [lookup_map_put, hlookup]
  | none =>
    by_cases ho : other = key
    · simp [List.lookup_append, ho, hlookup]
    · simp [List.lookup_append, ho, lookup_cons_of_ne]

@[simp] theorem here_put (t : FileTree) (key : TreeKey) (node : FileNode) :
    (t.put key node).here = t.here := by
  unfold put
  split_ifs <;> rfl

/-- What paths mean depends on the directories only: a tree with the directories of another one, and
perhaps more. -/
structure KeepsDirectories (t t' : FileTree) : Prop where
  here : t'.here = t.here
  directory : ∀ key, t.node? key = some .directory → t'.node? key = some .directory

/-- Putting a node where no directory stands keeps the directories. -/
theorem keepsDirectories_put {t : FileTree} {key : TreeKey} (h : key ≠ [])
    (hkey : t.node? key ≠ some .directory) (node : FileNode) :
    t.KeepsDirectories (t.put key node) where
  here := here_put t key node
  directory other hother := by
    have hne : other ≠ key := by
      rintro rfl
      exact hkey hother
    rw [node?_put t h, if_neg hne, hother]

variable {t t' : FileTree}

theorem KeepsDirectories.walk (h : t.KeepsDirectories t') {segments : List Bytes}
    {key found : TreeKey} (hwalk : t.walk key segments = .ok found) :
    t'.walk key segments = .ok found := by
  induction segments generalizing key with
  | nil => exact hwalk
  | cons segment more ih =>
    simp only [FileTree.walk] at hwalk ⊢
    split_ifs at hwalk ⊢ with h1 h2 h3
    · exact ih hwalk
    · exact ih hwalk
    · split at hwalk
      · next hnode =>
        rw [h.directory _ hnode]
        exact ih hwalk
      · cases hwalk
      · cases hwalk

theorem KeepsDirectories.placeWithin (h : t.KeepsDirectories t') {p : Path} {place : TreePlace}
    (hplace : t.placeWithin p = .ok place) : t'.placeWithin p = .ok place := by
  simp only [FileTree.placeWithin, h.here] at hplace ⊢
  generalize (if p.isAbsolute then [] else t.here) = start at hplace ⊢
  split_ifs at hplace ⊢
  cases hnames : p.segments.reverse.dropWhile (· = []) with
  | nil =>
    rw [hnames] at hplace
    exact hplace
  | cons last before =>
    simp only [hnames] at hplace ⊢
    split_ifs at hplace ⊢
    · cases hwalk : t.walk start p.segments with
      | error e => rw [hwalk] at hplace; cases hplace
      | ok key => rwa [h.walk hwalk, ← hwalk]
    · obtain ⟨parent, hwalk, hname⟩ := Except.bind_eq_ok_iff.mp hplace
      rw [h.walk hwalk]
      exact hname

/-- What a path is when it can be written: a name in a directory. -/
theorem writingPlace_eq_ok_iff {p : Path} {key : TreeKey} :
    t.writingPlace p = .ok key ↔
      ∃ parent name, t.placeWithin p = .ok (.name parent name false) ∧ name.length ≤ maxName ∧
        key = parent ++ [name] := by
  unfold writingPlace
  cases t.placeWithin p with
  | error e => simp
  | ok place =>
    cases place with
    | directory k => simp
    | name parent name slash =>
      cases slash with
      | true => simp
      | false =>
        by_cases hlong : maxName < name.length
        · simp [hlong, Nat.not_le.mpr hlong]
        · simp [hlong, Nat.not_lt.mp hlong, and_assoc, @eq_comm _ key]

theorem KeepsDirectories.writingPlace (h : t.KeepsDirectories t') {p : Path} {key : TreeKey}
    (hplace : t.writingPlace p = .ok key) : t'.writingPlace p = .ok key := by
  obtain ⟨parent, name, hwithin, hlength, rfl⟩ := writingPlace_eq_ok_iff.mp hplace
  exact writingPlace_eq_ok_iff.mpr ⟨parent, name, h.placeWithin hwithin, hlength, rfl⟩

theorem ne_nil_of_writingPlace {p : Path} {key : TreeKey} (h : t.writingPlace p = .ok key) :
    key ≠ [] := by
  obtain ⟨parent, name, -, -, rfl⟩ := writingPlace_eq_ok_iff.mp h
  simp

theorem find_of_writingPlace (h : t.KeepsDirectories t') {p : Path} {key : TreeKey}
    (hplace : t.writingPlace p = .ok key) {content : Bytes}
    (hnode : t'.node? key = some (.file content)) : t'.find p = .ok (.file content) := by
  obtain ⟨parent, name, hwithin, hlength, rfl⟩ := writingPlace_eq_ok_iff.mp hplace
  rw [find, place, h.placeWithin hwithin]
  simp [Nat.not_lt.mpr hlength, hnode]

/-- Writing puts a file where no directory stands, unless nothing is written to a full device. -/
theorem exists_put_of_write {p : Path} {content : Bytes} (hcontent : content ≠ [])
    (h : t.write p content = .ok t') :
    ∃ key, t.writingPlace p = .ok key ∧ t.node? key ≠ some .directory ∧
      t' = t.put key (.file content) := by
  obtain ⟨key, hplace, hwrite⟩ := Except.bind_eq_ok_iff.mp h
  refine ⟨key, hplace, ?_⟩
  match hnode : t.node? key with
  | some .directory => simp [hnode] at hwrite
  | some .fullDevice => simp [hnode, hcontent] at hwrite
  | some (.file _) | none =>
    simp only [hnode, Except.pure_eq_ok, Except.ok.injEq] at hwrite
    exact ⟨nofun, hwrite.symm⟩

/-- Whether a regular file stands at a path or can be made there. -/
def Writable (t : FileTree) (p : Path) : Prop :=
  ∃ key, t.writingPlace p = .ok key ∧ ∀ node ∈ t.node? key, ∃ content, node = .file content

theorem write_of_writable {p : Path} (h : t.Writable p) (content : Bytes) :
    ∃ t', t.write p content = .ok t' := by
  obtain ⟨key, hplace, hnode⟩ := h
  refine ⟨t.put key (.file content), ?_⟩
  rw [write, hplace, Except.ok_bind]
  cases hkey : t.node? key with
  | none => rfl
  | some node =>
    obtain ⟨old, rfl⟩ := hnode node hkey
    rfl

/-- A file can be made where one can be written, and it can be written after that. -/
theorem create_of_writable {p : Path} (h : t.Writable p) :
    ∃ t', t.create p = .ok t' ∧ t'.Writable p := by
  obtain ⟨key, hplace, hnode⟩ := h
  have hkey := ne_nil_of_writingPlace hplace
  have hdirectory : t.node? key ≠ some .directory := by
    intro hthere
    obtain ⟨content, hcontent⟩ := hnode _ hthere
    cases hcontent
  refine ⟨t.put key (.file []), ?_, key, ?_, ?_⟩
  · rw [create, hplace, Except.ok_bind]
    cases hthere : t.node? key with
    | none => rfl
    | some node =>
      obtain ⟨old, rfl⟩ := hnode node hthere
      rfl
  · exact (keepsDirectories_put hkey hdirectory (.file [])).writingPlace hplace
  · intro node hmade
    rw [node?_put t hkey, if_pos rfl, Option.mem_some_iff] at hmade
    exact ⟨[], hmade.symm⟩

theorem writable_of_write {p : Path} {content : Bytes} (hcontent : content ≠ [])
    (h : t.write p content = .ok t') : t.Writable p := by
  obtain ⟨key, hplace, hwrite⟩ := Except.bind_eq_ok_iff.mp h
  refine ⟨key, hplace, ?_⟩
  intro node hnode
  rw [Option.mem_def] at hnode
  rw [hnode] at hwrite
  cases node with
  | file old => exact ⟨old, rfl⟩
  | directory => cases hwrite
  | fullDevice =>
    simp only [hcontent, ↓reduceIte] at hwrite
    cases hwrite

/-- Putting a node where it stands already changes nothing. -/
theorem put_eq_self {key : TreeKey} {node : FileNode}
    (hthere : t.entries.any (·.1 = key) = true)
    (hsame : ∀ e ∈ t.entries, e.1 = key → e = (key, node)) : t.put key node = t := by
  have hmap : (t.entries.map fun e => if e.1 = key then (key, node) else e) =
      t.entries.map id := by
    refine List.map_congr_left fun e he => ?_
    by_cases hkey : e.1 = key
    · rw [if_pos hkey, ← hsame e he hkey, id]
    · rw [if_neg hkey, id]
  rw [put, if_pos hthere, hmap, List.map_id]

theorem put_put (t : FileTree) (key : TreeKey) (node : FileNode) :
    (t.put key node).put key node = t.put key node := by
  apply put_eq_self
  · unfold put
    split_ifs with hthere
    · obtain ⟨e, he, hkey⟩ := List.any_eq_true.mp hthere
      refine List.any_eq_true.mpr ⟨(key, node), List.mem_map.mpr ⟨e, he, ?_⟩, by simp⟩
      exact if_pos (of_decide_eq_true hkey)
    · simp
  · intro e he hkey
    unfold put at he
    split_ifs at he with hthere
    · obtain ⟨old, -, rfl⟩ := List.mem_map.mp he
      split_ifs at hkey ⊢ with hold
      · rfl
      · exact absurd hkey hold
    · rcases List.mem_append.mp he with hbefore | hnew
      · simp only [List.any_eq_true, decide_eq_true_eq, not_exists, not_and] at hthere
        exact absurd hkey (hthere e hbefore)
      · exact List.mem_singleton.mp hnew

/-- Writing a file again changes nothing. -/
theorem write_again {p : Path} {content : Bytes} (hcontent : content ≠ [])
    (h : t.write p content = .ok t') : t'.write p content = .ok t' := by
  obtain ⟨key, hplace, hnode, rfl⟩ := exists_put_of_write hcontent h
  have hkey := ne_nil_of_writingPlace hplace
  have hthere : (t.put key (.file content)).node? key = some (.file content) := by
    rw [node?_put t hkey, if_pos rfl]
  have hplace' := (keepsDirectories_put hkey hnode (.file content)).writingPlace hplace
  rw [write, hplace', Except.ok_bind, hthere]
  exact congrArg Except.ok (put_put t key (.file content))

theorem find_put {p : Path} {key : TreeKey} (hplace : t.writingPlace p = .ok key)
    (hnode : t.node? key ≠ some .directory) (content : Bytes) :
    (t.put key (.file content)).find p = .ok (.file content) := by
  have hkey := ne_nil_of_writingPlace hplace
  refine find_of_writingPlace (keepsDirectories_put hkey hnode _) hplace ?_
  rw [node?_put t hkey, if_pos rfl]

/-- A file that was written is there, with the content that was written. -/
theorem find_of_write {p : Path} {content : Bytes} (hcontent : content ≠ [])
    (h : t.write p content = .ok t') : t'.find p = .ok (.file content) := by
  obtain ⟨key, hplace, hnode, rfl⟩ := exists_put_of_write hcontent h
  exact find_put hplace hnode content

theorem isFile_of_find {p : Path} {content : Bytes} (h : t.find p = .ok (.file content)) :
    t.isFile p = true := by
  rw [isFile, h]

theorem read_of_find {p : Path} {content : Bytes} (h : t.find p = .ok (.file content)) :
    t.read p = .ok content := by
  rw [read, h]
  rfl

end PageQuery.FileTree
