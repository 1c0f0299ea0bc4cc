import Mathlib.Data.List.Induction
import PageQuery.Proofs.Files.Tree

/-!
Changes of a tree: which places they touch, that paths go on meaning the same, and what an attempt to
remove a file leaves.
-/
namespace PageQuery.FileTree

open Text (Bytes)

variable {t t' t'' : FileTree} {p : Path} {key : TreeKey}

/-- A tree of which only places of one kind are changed. -/
structure ChangesOnly (touched : TreeKey → Prop) (t t' : FileTree) : Prop where
  here : t'.here = t.here
  node : ∀ key, ¬ touched key → t'.node? key = t.node? key

/-- Trees that hold the same at every place. -/
def Alike (t t' : FileTree) : Prop := ChangesOnly (fun _ => False) t t'

/-- A tree in which everything stays as it stands. -/
structure Grows (t t' : FileTree) : Prop where
  here : t'.here = t.here
  node : ∀ key node, t.node? key = some node → t'.node? key = some node

/-- The place that a path names, with or without a slash behind the name. -/
def Names (t : FileTree) (p : Path) (key : TreeKey) : Prop :=
  ∃ parent name slash, t.place p = .ok (.name parent name slash) ∧ key = parent ++ [name]

/-- Only what stands at a path is changed. -/
def ChangesAt (p : Path) (t t' : FileTree) : Prop := ChangesOnly (t.Names p) t t'

/-- Only what stands at a path or below it is changed. -/
def ChangesWithin (p : Path) (t t' : FileTree) : Prop :=
  ChangesOnly (fun key => ∃ top, t.Names p top ∧ top <+: key) t t'

/-- What stands at a place is a regular file, if anything does. -/
def HoldsAtMostFile (t : FileTree) (key : TreeKey) : Prop :=
  ∀ node, t.node? key = some node → ∃ content, node = .file content

/-- Only the file that a path means is changed, and it stays a file if it was one or there was
none. -/
structure ChangesFileAt (p : Path) (t t' : FileTree) : Prop where
  changes : ChangesOnly (fun key => t.writingPlace p = .ok key) t t'
  holds : ∀ key, t.writingPlace p = .ok key → t.HoldsAtMostFile key → t'.HoldsAtMostFile key

/-- Whatever stands in the tree stands in a directory. -/
def IsTree (t : FileTree) : Prop := ∀ e ∈ t.entries, t.node? e.1.dropLast = some .directory

instance (t : FileTree) : Decidable t.IsTree :=
  inferInstanceAs (Decidable (∀ e ∈ t.entries, t.node? e.1.dropLast = some .directory))

namespace ChangesOnly

variable {touched touched' : TreeKey → Prop}

theorem refl (touched : TreeKey → Prop) (t : FileTree) : ChangesOnly touched t t :=
  ⟨rfl, fun _ _ => rfl⟩

theorem trans (h : ChangesOnly touched t t') (h' : ChangesOnly touched t' t'') :
    ChangesOnly touched t t'' where
  here := h'.here.trans h.here
  node key hkey := (h'.node key hkey).trans (h.node key hkey)

theorem mono (h : ChangesOnly touched t t') (himp : ∀ key, touched key → touched' key) :
    ChangesOnly touched' t t' where
  here := h.here
  node key hkey := h.node key (mt (himp key) hkey)

theorem keepsDirectories (h : ChangesOnly touched t t')
    (htouched : ∀ key, touched key → t.node? key ≠ some .directory) : t.KeepsDirectories t' where
  here := h.here
  directory key hkey := by
    rw [h.node key fun ht => htouched key ht hkey, hkey]

/-- If nothing stood at the places that are changed, all that stood stands. -/
theorem grows (h : ChangesOnly touched t t') (htouched : ∀ key, touched key → t.node? key = none) :
    t.Grows t' where
  here := h.here
  node key node hnode := by
    have hkey : ¬ touched key := by
      intro ht
      rw [htouched key ht] at hnode
      cases hnode
    rw [h.node key hkey, hnode]

end ChangesOnly

namespace Grows

theorem refl (t : FileTree) : t.Grows t := ⟨rfl, fun _ _ h => h⟩

theorem trans (h : t.Grows t') (h' : t'.Grows t'') : t.Grows t'' where
  here := h'.here.trans h.here
  node key node hnode := h'.node key node (h.node key node hnode)

theorem keepsDirectories (h : t.Grows t') : t.KeepsDirectories t' :=
  ⟨h.here, fun key => h.node key .directory⟩

end Grows

/-! ### Paths -/

theorem place_eq_name_iff {parent : TreeKey} {name : Bytes} {slash : Bool} :
    t.place p = .ok (.name parent name slash) ↔
      t.placeWithin p = .ok (.name parent name slash) ∧ name.length ≤ maxName := by
  unfold place
  cases t.placeWithin p with
  | error e => simp
  | ok found =>
    cases found with
    | directory k => simp
    | name parent' name' slash' =>
      by_cases hlong : maxName < name'.length
      · simp only [Except.ok_bind, hlong, ↓reduceIte, Except.throw_eq_error, Except.error_bind,
          reduceCtorEq, false_iff]
        rintro ⟨hname, hlength⟩
        cases hname
        omega
      · simp only [Except.ok_bind, hlong, ↓reduceIte, Except.pure_eq_ok]
        constructor
        · intro hname
          cases hname
          exact ⟨rfl, by omega⟩
        · exact And.left

theorem KeepsDirectories.place (h : t.KeepsDirectories t') {found : TreePlace}
    (hplace : t.place p = .ok found) : t'.place p = .ok found := by
  obtain ⟨within, hwithin, hrest⟩ := Except.bind_eq_ok_iff.mp hplace
  rw [FileTree.place, h.placeWithin hwithin]
  exact hrest

/-- The place that is written is the one that is named, without a slash behind it. -/
theorem writingPlace_eq_ok_iff_place :
    t.writingPlace p = .ok key ↔
      ∃ parent name, t.place p = .ok (.name parent name false) ∧ key = parent ++ [name] := by
  simp only [writingPlace_eq_ok_iff, place_eq_name_iff, and_assoc]

theorem writingPlace_eq_ok_iff_of_place {parent : TreeKey} {name : Bytes} {slash : Bool}
    (h : t.place p = .ok (.name parent name slash)) :
    t.writingPlace p = .ok key ↔ slash = false ∧ parent ++ [name] = key := by
  rw [writingPlace_eq_ok_iff_place, h]
  constructor
  · rintro ⟨parent', name', hname, rfl⟩
    cases hname
    exact ⟨rfl, rfl⟩
  · rintro ⟨rfl, rfl⟩
    exact ⟨parent, name, rfl, rfl⟩

theorem names_of_writingPlace (h : t.writingPlace p = .ok key) : t.Names p key := by
  obtain ⟨parent, name, hplace, rfl⟩ := writingPlace_eq_ok_iff_place.mp h
  exact ⟨parent, name, false, hplace, rfl⟩

theorem not_names_of_place_error {e : SystemError} (h : t.place p = .error e) (key : TreeKey) :
    ¬ t.Names p key := by
  rintro ⟨parent, name, slash, hplace, -⟩
  rw [h] at hplace
  cases hplace

theorem eq_of_names {key' : TreeKey} (h : t.Names p key) (h' : t.Names p key') : key = key' := by
  obtain ⟨parent, name, slash, hplace, rfl⟩ := h
  obtain ⟨parent', name', slash', hplace', rfl⟩ := h'
  rw [hplace] at hplace'
  cases hplace'
  rfl

theorem Alike.walk (h : t.Alike t') (key : TreeKey) (segments : List Bytes) :
    t'.walk key segments = t.walk key segments := by
  induction segments generalizing key with
  | nil => rfl
  | cons segment more ih =>
    simp only [FileTree.walk, ih, h.node _ not_false]

theorem Alike.place (h : t.Alike t') (p : Path) : t'.place p = t.place p := by
  simp only [FileTree.place, FileTree.placeWithin, h.here, h.walk]

/-- A path goes on meaning the same place if only that place is changed and no directory stood
there. -/
theorem ChangesOnly.place {touched : TreeKey → Prop} (h : ChangesOnly touched t t')
    (htouched : ∀ key, touched key → t.node? key ≠ some .directory)
    (hplace : ∀ e, t.place p = .error e → ∀ key, ¬ touched key) : t'.place p = t.place p := by
  cases hfound : t.place p with
  | ok found => exact (h.keepsDirectories htouched).place hfound
  | error e =>
    have halike : t.Alike t' := h.mono fun key hkey => hplace e hfound key hkey
    rw [halike.place p, hfound]

theorem names_congr (h : t'.place p = t.place p) (key : TreeKey) :
    t'.Names p key ↔ t.Names p key := by
  rw [Names, Names, h]

theorem writingPlace_congr (h : t'.place p = t.place p) (key : TreeKey) :
    t'.writingPlace p = .ok key ↔ t.writingPlace p = .ok key := by
  rw [writingPlace_eq_ok_iff_place, writingPlace_eq_ok_iff_place, h]

/-! ### What stands at a path -/

theorem find_eq_file_iff {content : Bytes} :
    t.find p = .ok (.file content) ↔
      ∃ key, t.writingPlace p = .ok key ∧ t.node? key = some (.file content) := by
  unfold find
  cases hplace : t.place p with
  | error e => simp [writingPlace_eq_ok_iff_place, hplace]
  | ok found =>
    cases found with
    | directory k => simp [writingPlace_eq_ok_iff_place, hplace]
    | name parent name slash =>
      simp only [writingPlace_eq_ok_iff_of_place hplace]
      cases hnode : t.node? (parent ++ [name]) with
      | none => simp [hnode]
      | some node => cases node <;> cases slash <;> simp [hnode]

theorem isFile_iff :
    t.isFile p = true ↔
      ∃ key content, t.writingPlace p = .ok key ∧ t.node? key = some (.file content) := by
  have hfind : t.isFile p = true ↔ ∃ content, t.find p = .ok (.file content) := by
    unfold isFile
    split
    · next content h => simp [h]
    · next h => simpa using h
  rw [hfind, exists_comm]
  simp only [find_eq_file_iff]

theorem pathExists_of_find {node : FileNode} (h : t.find p = .ok node) : t.pathExists p = true := by
  rw [pathExists, h]
  rfl

theorem not_isFile_of_not_pathExists (h : t.pathExists p = false) : t.isFile p = false := by
  rw [Bool.eq_false_iff]
  intro hfile
  obtain ⟨key, content, hkey, hnode⟩ := isFile_iff.mp hfile
  rw [pathExists_of_find (find_eq_file_iff.mpr ⟨key, hkey, hnode⟩)] at h
  cases h

/-- Nothing stands at a path that does not exist, unless there is a slash behind it. -/
theorem node?_of_not_pathExists (h : t.pathExists p = false) (hkey : t.writingPlace p = .ok key) :
    t.node? key = none := by
  obtain ⟨parent, name, hplace, rfl⟩ := writingPlace_eq_ok_iff_place.mp hkey
  cases hnode : t.node? (parent ++ [name]) with
  | none => rfl
  | some node =>
    have hfind : t.find p = .ok node := by
      rw [find, hplace]
      cases node <;> simp [hnode]
    rw [pathExists_of_find hfind] at h
    cases h

theorem node?_ne_directory_of_not_pathExists (h : t.pathExists p = false) (hkey : t.Names p key) :
    t.node? key ≠ some .directory := by
  obtain ⟨parent, name, slash, hplace, rfl⟩ := hkey
  intro hnode
  have hfind : t.find p = .ok .directory := by
    rw [find, hplace]
    simp [hnode]
  rw [pathExists_of_find hfind] at h
  cases h

/-- All that a path led to is there as long as everything stays. -/
theorem Grows.find (h : t.Grows t') {node : FileNode} (hfind : t.find p = .ok node) :
    t'.find p = .ok node := by
  obtain ⟨found, hplace, hrest⟩ := Except.bind_eq_ok_iff.mp hfind
  rw [FileTree.find, h.keepsDirectories.place hplace]
  cases found with
  | directory k => exact hrest
  | name parent name slash =>
    cases hnode : t.node? (parent ++ [name]) with
    | none => simp [hnode] at hrest
    | some node' =>
      simp only [hnode] at hrest
      simpa only [Except.ok_bind, h.node _ _ hnode] using hrest

theorem Grows.not_pathExists (h : t.Grows t') (hfree : t'.pathExists p = false) :
    t.pathExists p = false := by
  cases hfind : t.find p with
  | error e =>
    rw [pathExists, hfind]
    rfl
  | ok node =>
    rw [pathExists_of_find (h.find hfind)] at hfree
    cases hfree

/-- Nothing stands below a place where no directory stands. -/
theorem IsTree.node?_append (h : t.IsTree) (hkey : t.node? key ≠ some .directory)
    {more : List Bytes} (hmore : more ≠ []) : t.node? (key ++ more) = none := by
  -- from the last name on, as a tree speaks of the parent of an entry
  induction more using List.reverseRecOn with
  | nil => exact absurd rfl hmore
  | append_singleton before last ih =>
    have hbefore : t.node? (key ++ before) ≠ some .directory := by
      by_cases hempty : before = []
      · simpa [hempty] using hkey
      · rw [ih hempty]
        exact nofun
    rw [← List.append_assoc, node?_of_ne_nil t (by simp), ← Option.not_isSome_iff_eq_none,
      List.lookup_isSome_iff]
    rintro ⟨e, he, hfound⟩
    have hdirectory := h e he
    rw [← beq_iff_eq.mp hfound, List.dropLast_concat] at hdirectory
    exact hbefore hdirectory

/-! ### Changes of one file -/

/-- A path where nothing was means the same after its file was changed. -/
theorem ChangesFileAt.place (h : t.ChangesFileAt p t') (hfree : t.pathExists p = false) :
    t'.place p = t.place p := by
  refine h.changes.place (fun key hkey => ?_) fun e he key hkey => ?_
  · exact node?_ne_directory_of_not_pathExists hfree (names_of_writingPlace hkey)
  · exact not_names_of_place_error he key (names_of_writingPlace hkey)

theorem ChangesFileAt.trans (h : t.ChangesFileAt p t') (hfree : t.pathExists p = false)
    (h' : t'.ChangesFileAt p t'') : t.ChangesFileAt p t'' := by
  have hwriting := writingPlace_congr (h.place hfree)
  constructor
  · exact h.changes.trans (h'.changes.mono fun key => (hwriting key).mp)
  · exact fun key hkey hholds => h'.holds key ((hwriting key).mpr hkey) (h.holds key hkey hholds)

theorem changesFileAt_refl (p : Path) (t : FileTree) : t.ChangesFileAt p t :=
  ⟨.refl _ t, fun _ _ hholds => hholds⟩

theorem changesFileAt_put (hkey : t.writingPlace p = .ok key) (content : Bytes) :
    t.ChangesFileAt p (t.put key (.file content)) := by
  have hput := node?_put t (ne_nil_of_writingPlace hkey) (.file content)
  refine ⟨⟨here_put t key _, fun other hother => ?_⟩, fun other hother hholds node hnode => ?_⟩
  · rw [hput, if_neg]
    rintro rfl
    exact hother hkey
  · rw [hkey] at hother
    cases hother
    rw [hput, if_pos rfl] at hnode
    cases hnode
    exact ⟨content, rfl⟩

/-- A path where nothing was leads to at most a file after its file was changed. -/
theorem ChangesFileAt.holdsAtMostFile (h : t.ChangesFileAt p t') (hfree : t.pathExists p = false)
    (hkey : t'.writingPlace p = .ok key) : t'.HoldsAtMostFile key := by
  have hbefore := (writingPlace_congr (h.place hfree) key).mp hkey
  refine h.holds key hbefore fun node hnode => ?_
  rw [node?_of_not_pathExists hfree hbefore] at hnode
  cases hnode

theorem changesFileAt_create (h : t.create p = .ok t') : t.ChangesFileAt p t' := by
  obtain ⟨key, hkey, hcreate⟩ := Except.bind_eq_ok_iff.mp h
  split at hcreate <;> cases hcreate
  · exact changesFileAt_refl p t
  · exact changesFileAt_put hkey []

theorem changesFileAt_write {content : Bytes} (h : t.write p content = .ok t') :
    t.ChangesFileAt p t' := by
  obtain ⟨key, hkey, hwrite⟩ := Except.bind_eq_ok_iff.mp h
  split at hwrite
  · cases hwrite
  · split_ifs at hwrite
    cases hwrite
    exact changesFileAt_refl p t
  · cases hwrite
    exact changesFileAt_put hkey content

/-- Whatever is written where at most a file stood, there is a file then. -/
theorem isFile_of_write {content : Bytes}
    (hholds : ∀ key, t.writingPlace p = .ok key → t.HoldsAtMostFile key)
    (h : t.write p content = .ok t') : t'.isFile p = true := by
  obtain ⟨key, hkey, hwrite⟩ := Except.bind_eq_ok_iff.mp h
  split at hwrite
  · cases hwrite
  · next hdevice =>
    obtain ⟨old, hold⟩ := hholds key hkey _ hdevice
    cases hold
  · next hdirectory _ =>
    cases hwrite
    exact isFile_of_find (find_put hkey hdirectory content)

/-! ### Removing a file -/

theorem node?_erase (t : FileTree) (hkey : key ≠ []) (other : TreeKey) :
    (t.erase key).node? other = if other = key then none else t.node? other := by
  by_cases hroot : other = []
  · subst hroot
    simp [Ne.symm hkey]
  rw [node?_of_ne_nil _ hroot, node?_of_ne_nil _ hroot, erase]
  induction t.entries with
  | nil => simp
  | cons e rest ih =>
    obtain ⟨k, old⟩ := e
    by_cases hk : k = key
    · subst hk
      rw [List.filter_cons_of_neg (by simp), ih]
      by_cases ho : other = k
      · rw [if_pos ho, if_pos ho]
      · rw [if_neg ho, if_neg ho, lookup_cons_of_ne ho]
    · rw [List.filter_cons_of_pos (by simpa using hk)]
      by_cases ho : other = k
      · subst ho
        simp [hk]
      · rw [lookup_cons_of_ne ho, ih, lookup_cons_of_ne ho]

@[simp] theorem here_erase (t : FileTree) (key : TreeKey) : (t.erase key).here = t.here := rfl

theorem changesOnly_erase (t : FileTree) (hkey : key ≠ []) : ChangesOnly (· = key) t (t.erase key) :=
  ⟨rfl, fun other hother => by rw [node?_erase t hkey, if_neg hother]⟩

/-- The tree after an attempt to remove the file at a path. -/
def afterRemoval (t : FileTree) (p : Path) : FileTree :=
  match t.removeIfThere p with
  | .ok (_, t') => t'
  | .error _ => t

/-- What a file is removed for: the path means a place where something stands that is no
directory. -/
theorem remove_eq_ok_iff :
    t.remove p = .ok t' ↔
      ∃ key node, t.writingPlace p = .ok key ∧ t.node? key = some node ∧ node ≠ .directory ∧
        t' = t.erase key := by
  unfold remove
  cases hplace : t.place p with
  | error e => simp [writingPlace_eq_ok_iff_place, hplace]
  | ok found =>
    cases found with
    | directory k => simp [writingPlace_eq_ok_iff_place, hplace]
    | name parent name slash =>
      simp only [writingPlace_eq_ok_iff_of_place hplace]
      cases hnode : t.node? (parent ++ [name]) with
      | none => simp [hnode]
      | some node => cases node <;> cases slash <;> simp [hnode, @eq_comm _ t']

/-- An attempt to remove a file erases it, or changes nothing because no file is there. -/
theorem afterRemoval_cases (t : FileTree) (p : Path) :
    (∃ key node, t.writingPlace p = .ok key ∧ t.node? key = some node ∧ node ≠ .directory ∧
      t.afterRemoval p = t.erase key) ∨
    (t.afterRemoval p = t ∧
      ∀ key, t.writingPlace p = .ok key → t.node? key = none ∨ t.node? key = some .directory) := by
  cases hremove : t.remove p with
  | ok t' =>
    left
    obtain ⟨key, node, hplace, hnode, hdirectory, rfl⟩ := remove_eq_ok_iff.mp hremove
    refine ⟨key, node, hplace, hnode, hdirectory, ?_⟩
    rw [afterRemoval, removeIfThere, hremove]
  | error e =>
    right
    constructor
    · rw [afterRemoval, removeIfThere, hremove]
      by_cases hthere : e = .notFound <;> simp [hthere]
    · intro key hplace
      cases hnode : t.node? key with
      | none => exact .inl rfl
      | some node =>
        by_cases hdirectory : node = .directory
        · exact .inr (by rw [hdirectory])
        · have hremoved := remove_eq_ok_iff.mpr ⟨key, node, hplace, hnode, hdirectory, rfl⟩
          rw [hremove] at hremoved
          cases hremoved

/-- Whatever stood at a path, no regular file is there after an attempt to remove it. -/
theorem isFile_afterRemoval (t : FileTree) (p : Path) : (t.afterRemoval p).isFile p = false := by
  rw [Bool.eq_false_iff, Ne, isFile_iff]
  rintro ⟨key, content, hplace, hnode⟩
  rcases t.afterRemoval_cases p with ⟨key', node, hplace', hnode', hdirectory, herase⟩ |
    ⟨hsame, hnone⟩
  · rw [herase] at hplace hnode
    have hkey' := ne_nil_of_writingPlace hplace'
    have hkeeps : t.KeepsDirectories (t.erase key') :=
      (changesOnly_erase t hkey').keepsDirectories fun _ h => by
        rw [h, hnode']
        simpa using hdirectory
    rw [hkeeps.writingPlace hplace'] at hplace
    cases hplace
    rw [node?_erase t hkey', if_pos rfl] at hnode
    cases hnode
  · rw [hsame] at hplace hnode
    rcases hnone key hplace with h | h <;> rw [h] at hnode <;> cases hnode

theorem changesOnly_afterRemoval (t : FileTree) (p : Path) :
    ChangesOnly (fun key => t.writingPlace p = .ok key) t (t.afterRemoval p) := by
  rcases t.afterRemoval_cases p with ⟨key, node, hplace, -, -, herase⟩ | ⟨hsame, -⟩
  · rw [herase]
    exact (changesOnly_erase t (ne_nil_of_writingPlace hplace)).mono fun _ h => h ▸ hplace
  · rw [hsame]
    exact .refl _ t

/-- After an attempt to remove a file nothing stands there, or a directory. -/
theorem node?_afterRemoval (t : FileTree) (hplace : t.writingPlace p = .ok key) :
    (t.afterRemoval p).node? key = none ∨
      (t.afterRemoval p).node? key = some .directory ∧ t.node? key = some .directory := by
  rcases t.afterRemoval_cases p with ⟨key', node, hplace', -, -, herase⟩ | ⟨hsame, hnone⟩
  · rw [hplace] at hplace'
    cases hplace'
    left
    rw [herase, node?_erase t (ne_nil_of_writingPlace hplace), if_pos rfl]
  · rw [hsame]
    exact (hnone key hplace).imp id fun h => ⟨h, h⟩

theorem changesAt_refl (p : Path) (t : FileTree) : t.ChangesAt p t := .refl _ t

/-- A path where nothing was means the same after a change of what stands at it. -/
theorem ChangesAt.place (h : t.ChangesAt p t') (hfree : t.pathExists p = false) :
    t'.place p = t.place p := by
  refine ChangesOnly.place h (fun key hkey => ?_) fun e he => not_names_of_place_error he
  exact node?_ne_directory_of_not_pathExists hfree hkey

theorem ChangesAt.trans (h : t.ChangesAt p t') (hfree : t.pathExists p = false)
    (h' : t'.ChangesAt p t'') : t.ChangesAt p t'' :=
  ChangesOnly.trans h (h'.mono fun key => (names_congr (h.place hfree) key).mp)

theorem ChangesWithin.place (h : t.ChangesWithin p t') (htree : t.IsTree)
    (hfree : t.pathExists p = false) : t'.place p = t.place p := by
  refine ChangesOnly.place h ?_ ?_
  · rintro key ⟨top, htop, more, rfl⟩
    have hnode := node?_ne_directory_of_not_pathExists hfree htop
    -- `t` holds nothing below the path either: here it has to be a tree
    by_cases hmore : more = []
    · rwa [hmore, List.append_nil]
    · rw [htree.node?_append hnode hmore]
      exact nofun
  · rintro e he key ⟨top, htop, -⟩
    exact not_names_of_place_error he top htop

theorem ChangesWithin.trans (h : t.ChangesWithin p t') (htree : t.IsTree)
    (hfree : t.pathExists p = false) (h' : t'.ChangesWithin p t'') : t.ChangesWithin p t'' := by
  refine ChangesOnly.trans h (h'.mono ?_)
  rintro key ⟨top, htop, hbelow⟩
  exact ⟨top, (names_congr (h.place htree hfree) top).mp htop, hbelow⟩

theorem changesAt_afterRemoval (p : Path) (t : FileTree) : t.ChangesAt p (t.afterRemoval p) :=
  (t.changesOnly_afterRemoval p).mono fun _ => names_of_writingPlace

theorem ChangesAt.changesWithin (h : t.ChangesAt p t') : t.ChangesWithin p t' :=
  h.mono fun key hkey => ⟨key, hkey, List.prefix_rfl⟩

theorem ChangesFileAt.changesAt (h : t.ChangesFileAt p t') : t.ChangesAt p t' :=
  h.changes.mono fun _ => names_of_writingPlace

theorem changesAt_remove (h : t.remove p = .ok t') : t.ChangesAt p t' := by
  obtain ⟨key, node, hplace, -, -, rfl⟩ := remove_eq_ok_iff.mp h
  refine (changesOnly_erase t (ne_nil_of_writingPlace hplace)).mono fun other hother => ?_
  rw [hother]
  exact names_of_writingPlace hplace

/-- A path means the same after what it leads to was removed. -/
theorem place_of_remove (h : t.remove p = .ok t') : t'.place p = t.place p := by
  obtain ⟨key, node, hplace, hnode, hdirectory, rfl⟩ := remove_eq_ok_iff.mp h
  obtain ⟨parent, name, hname, -⟩ := writingPlace_eq_ok_iff_place.mp hplace
  have hkeeps : t.KeepsDirectories (t.erase key) := by
    refine (changesOnly_erase t (ne_nil_of_writingPlace hplace)).keepsDirectories ?_
    rintro other rfl
    rw [hnode]
    simpa using hdirectory
  rw [hname, hkeeps.place hname]

theorem changesAt_makeDirectory (h : t.makeDirectory p = .ok t') : t.ChangesAt p t' := by
  obtain ⟨found, hplace, hmake⟩ := Except.bind_eq_ok_iff.mp h
  cases found with
  | directory key => cases hmake
  | name parent name slash =>
    cases hnode : t.node? (parent ++ [name]) with
    | some node => simp [hnode] at hmake
    | none =>
      simp only [hnode, Except.pure_eq_ok, Except.ok.injEq] at hmake
      subst hmake
      refine ⟨here_put t _ _, fun other hother => ?_⟩
      rw [node?_put t (by simp), if_neg]
      rintro rfl
      exact hother ⟨parent, name, slash, hplace, rfl⟩

/-- Where nothing was, a file that was made and removed again leaves nothing behind. -/
theorem ChangesFileAt.alike_afterRemoval (h : t.ChangesFileAt p t')
    (hfree : t.pathExists p = false) : t.Alike (t'.afterRemoval p) := by
  have hwriting := writingPlace_congr (h.place hfree)
  have hremoval := t'.changesOnly_afterRemoval p
  refine ⟨hremoval.here.trans h.changes.here, fun key _ => ?_⟩
  by_cases hkey : t.writingPlace p = .ok key
  · have hnone := node?_of_not_pathExists hfree hkey
    rw [hnone]
    rcases t'.node?_afterRemoval ((hwriting key).mpr hkey) with hremoved | ⟨-, hdirectory⟩
    · exact hremoved
    -- only a directory would withstand the removal, and a writer makes none
    · have hfile := h.holds key hkey (by simp [HoldsAtMostFile, hnone])
      obtain ⟨content, hcontent⟩ := hfile _ hdirectory
      cases hcontent
  · rw [hremoval.node key (mt (hwriting key).mp hkey), h.changes.node key hkey]

end PageQuery.FileTree
