import PageQuery.Proofs.Files.Changes
import PageQuery.Proofs.Files.Path

/-!
Names in a directory. How a path to such a name is spelt, and that whether the name can be written
is a matter of the directory, of zero bytes and of the lengths of the name and of the path.
-/
namespace PageQuery

open Text (Bytes)

namespace Path

/-- Bytes that name something in a directory. -/
structure IsName (name : Bytes) : Prop where
  slash : slash ∉ name
  nonempty : name ≠ []
  current : name ≠ current
  above : name ≠ above

/-- A directory as it is spelt in front of the names in it. -/
def front (directory : Path) : Bytes :=
  if directory.bytes = [] ∨ directory.bytes.getLast? = some slash then directory.bytes
  else directory.bytes ++ [slash]

variable {directory : Path} {name : Bytes}

theorem isAbsolute_of_slash_notMem (hslash : slash ∉ name) : isAbsolute ⟨name⟩ = false := by
  rw [isAbsolute, decide_eq_false_iff_not]
  intro hhead
  exact hslash (List.mem_of_head? hhead)

theorem join_name (directory : Path) (hslash : slash ∉ name) :
    directory.join ⟨name⟩ = ⟨directory.front ++ name⟩ := by
  have hrelative := isAbsolute_of_slash_notMem hslash
  rw [join, hrelative, front]
  simp only [Bool.false_eq_true, ↓reduceIte]
  split
  · rfl
  · rw [List.append_assoc, List.singleton_append]

theorem front_cases (directory : Path) :
    directory.front = [] ∨ ∃ before, directory.front = before ++ [slash] := by
  unfold front
  split
  · next hplain =>
    obtain hempty | hlast := hplain
    · exact .inl hempty
    · exact .inr (List.getLast?_eq_some_iff.mp hlast)
  · exact .inr ⟨_, rfl⟩

theorem isAbsolute_front_append (directory : Path) (hslash : slash ∉ name) :
    isAbsolute ⟨directory.front ++ name⟩ = isAbsolute ⟨directory.front⟩ := by
  obtain hempty | ⟨before, hfront⟩ := directory.front_cases
  · rw [hempty, List.nil_append, isAbsolute_of_slash_notMem hslash]
    rfl
  · rw [hfront, List.append_assoc, List.singleton_append, isAbsolute_append_slash]

/-- The segments in front of a name are those of the directory. -/
theorem segments_front_append (directory : Path) (hslash : slash ∉ name) :
    segments ⟨directory.front ++ name⟩ = (segments ⟨directory.front⟩).dropLast ++ [name] := by
  obtain hempty | ⟨before, hfront⟩ := directory.front_cases
  · rw [hempty, List.nil_append, segments, isAbsolute_of_slash_notMem hslash,
      pieces_of_notMem hslash]
    rfl
  · rw [hfront, List.append_assoc, List.singleton_append, segments_append_slash before name hslash,
      segments_append_slash before [] List.not_mem_nil, List.dropLast_concat]

end Path

namespace FileTree

variable {t : FileTree} {directory : Path} {name other : Bytes} {key : TreeKey}

/-- What a name in a directory means, once the path to it is one that can be looked up. -/
theorem exists_placeWithin_join (t : FileTree) (directory : Path) :
    ∃ parent : Except SystemError TreeKey, ∀ name, Path.IsName name →
      t.placeWithin (directory.join ⟨name⟩) =
        if 0 ∈ (directory.join ⟨name⟩).bytes then .error .zeroInPath
        else if maxPath < (directory.join ⟨name⟩).bytes.length then .error .nameTooLong
        else parent.map (.name · name false) := by
  let start := if Path.isAbsolute ⟨directory.front⟩ then [] else t.here
  refine ⟨t.walk start (Path.segments ⟨directory.front⟩).dropLast, fun name hname => ?_⟩
  have hbytes : directory.front ++ name ≠ [] := by simp [hname.nonempty]
  have hlast (before : List Bytes) : (name :: before).dropWhile (· = []) = name :: before :=
    List.dropWhile_cons_of_neg (by simp [hname.nonempty])
  rw [Path.join_name directory hname.slash, placeWithin]
  by_cases hzero : 0 ∈ directory.front ++ name
  · simp only [hzero, ↓reduceIte]
  by_cases hlong : maxPath < (directory.front ++ name).length
  · simp only [hzero, hbytes, hlong, ↓reduceIte]
  simp only [hzero, hbytes, hlong, ↓reduceIte, Path.isAbsolute_front_append directory hname.slash,
    Path.segments_front_append directory hname.slash, List.reverse_concat,
    hlast, hname.current, hname.above, or_self, List.reverse_reverse,
    List.head?_cons, Option.some.injEq, hname.nonempty, decide_false]
  cases t.walk start (Path.segments ⟨directory.front⟩).dropLast <;> rfl

theorem mem_keys_of_node? {node : FileNode} (hnode : t.node? key = some node) (hkey : key ≠ []) :
    key ∈ t.entries.map (·.1) := by
  rw [node?_of_ne_nil t hkey] at hnode
  obtain ⟨before, after, hentries, -⟩ := List.lookup_eq_some_iff.mp hnode
  rw [hentries]
  simp

/-- The names in a directory that lead to something all stand at one place of the tree. -/
theorem exists_parent_of_pathExists (t : FileTree) (directory : Path) :
    ∃ parent, ∀ name, Path.IsName name → t.pathExists (directory.join ⟨name⟩) = true →
      parent ++ [name] ∈ t.entries.map (·.1) := by
  obtain ⟨found, hplace⟩ := t.exists_placeWithin_join directory
  refine ⟨found.toOption.getD [], fun name hname hexists => ?_⟩
  cases hfind : t.find (directory.join ⟨name⟩) with
  | error e =>
    rw [pathExists, hfind] at hexists
    cases hexists
  | ok node =>
    obtain ⟨place, hat, hnode⟩ := Except.bind_eq_ok_iff.mp hfind
    obtain ⟨within, hwithin, hlength⟩ := Except.bind_eq_ok_iff.mp hat
    rw [hplace name hname] at hwithin
    split_ifs at hwithin
    obtain ⟨parent, rfl, rfl⟩ := Except.map_eq_ok_iff.mp hwithin
    dsimp only at hlength
    split_ifs at hlength <;> cases hlength
    cases hthere : t.node? (parent ++ [name]) with
    | none =>
      simp [hthere] at hnode
    | some other => exact mem_keys_of_node? hthere (by simp)

theorem zero_notMem_of_writingPlace {p : Path} (h : t.writingPlace p = .ok key) : 0 ∉ p.bytes := by
  obtain ⟨parent, name, hwithin, -, -⟩ := writingPlace_eq_ok_iff.mp h
  intro hzero
  rw [placeWithin, if_pos hzero] at hwithin
  cases hwithin

/-- If one name in a directory can be written, so can every other one without a zero byte, unless it
or the path to it is too long. -/
theorem writingPlace_join (h : t.writingPlace (directory.join ⟨name⟩) = .ok key)
    (hname : Path.IsName name) (hother : Path.IsName other) (hzero : 0 ∉ other) :
    ∃ parent, t.writingPlace (directory.join ⟨other⟩) =
      if other.length ≤ maxName ∧ (directory.join ⟨other⟩).bytes.length ≤ maxPath
      then .ok (parent ++ [other]) else .error .nameTooLong := by
  obtain ⟨found, hplace⟩ := t.exists_placeWithin_join directory
  obtain ⟨parent, last, hwithin, -, -⟩ := writingPlace_eq_ok_iff.mp h
  rw [hplace name hname] at hwithin
  split_ifs at hwithin with hfree hpath
  obtain ⟨key, rfl, -⟩ := Except.map_eq_ok_iff.mp hwithin
  have hfree' : 0 ∉ (directory.join ⟨other⟩).bytes := by
    rw [Path.join_name directory hname.slash] at hfree
    rw [Path.join_name directory hother.slash]
    intro hmem
    rcases List.mem_append.mp hmem with hfront | hmem
    · exact hfree (List.mem_append_left name hfront)
    · exact hzero hmem
  refine ⟨key, ?_⟩
  rw [writingPlace, hplace other hother, if_neg hfree']
  by_cases hlong : maxPath < (directory.join ⟨other⟩).bytes.length
  · rw [if_pos hlong, if_neg fun hfits => absurd hfits.2 (Nat.not_le.mpr hlong)]
    rfl
  · rw [if_neg hlong]
    by_cases hlength : maxName < other.length
    · rw [if_neg fun hfits => absurd hfits.1 (Nat.not_le.mpr hlength)]
      simp [Except.map, hlength]
    · rw [if_pos ⟨Nat.not_lt.mp hlength, Nat.not_lt.mp hlong⟩]
      simp [Except.map, hlength]

end FileTree
end PageQuery
