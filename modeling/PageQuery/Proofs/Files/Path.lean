import PageQuery.Files.Path
import PageQuery.Proofs.Text.Pieces

/-!
The components of paths. The last name of a path, its parent and what a name is joined to are all
matters of components, however the path is spelt.
-/
namespace PageQuery.Path

open Text (Bytes)

inductive Component where
  | root
  | current
  | above
  | name (bytes : Bytes)
deriving DecidableEq

def Component.ofSegment (segment : Bytes) : Component :=
  if segment = Path.current then .current
  else if segment = Path.above then .above
  else .name segment

/-- The segments that name something; a dot does in front of a relative path only. -/
def named (absolute : Bool) : List Bytes → List Bytes
  | [] => []
  | first :: more =>
    (if first = [] ∨ (absolute ∧ first = current) then [] else [first]) ++
      more.filter fun segment => segment ≠ [] ∧ segment ≠ current

def componentsOf (absolute : Bool) (segments : List Bytes) : List Component :=
  (if absolute then [.root] else []) ++ (named absolute segments).map .ofSegment

def components (p : Path) : List Component := componentsOf p.isAbsolute p.segments

variable {absolute : Bool} {parts more : List Bytes} {last segment : Bytes}

theorem named_concat (hname : segment ≠ [] ∧ segment ≠ current) :
    named absolute (parts ++ [segment]) = named absolute parts ++ [segment] := by
  cases parts with
  | nil => simp [named, hname]
  | cons first more => simp [named, hname]

theorem named_concat_empty (absolute : Bool) (parts : List Bytes) :
    named absolute (parts ++ [[]]) = named absolute parts := by
  cases parts with
  | nil => rfl
  | cons first more => simp [named]

theorem named_concat_nameless (hne : parts ≠ []) (hname : segment = [] ∨ segment = current) :
    named absolute (parts ++ [segment]) = named absolute parts := by
  cases parts with
  | nil => exact absurd rfl hne
  | cons first more => rcases hname with rfl | rfl <;> simp [named]

/-! ### From the last component backwards -/

theorem dropNameless_suffix (absolute : Bool) (parts : List Bytes) :
    dropNameless absolute parts <:+ parts := by
  fun_induction dropNameless absolute parts with
  | case1 => exact List.suffix_refl _
  | case2 => exact List.nil_suffix
  | case3 => exact List.suffix_refl _
  | case4 last more hmore hname ih => exact ih.trans (List.suffix_cons last more)
  | case5 => exact List.suffix_refl _

theorem named_reverse_dropNameless (absolute : Bool) (parts : List Bytes) :
    named absolute (dropNameless absolute parts).reverse = named absolute parts.reverse := by
  fun_induction dropNameless absolute parts with
  | case1 => rfl
  | case2 only hname => simp [named, hname]
  | case3 => rfl
  | case4 last more hmore hname ih =>
    have hne : more.reverse ≠ [] := by simpa using hmore
    rw [ih, List.reverse_cons, named_concat_nameless hne hname]
  | case5 => rfl

theorem named_reverse_of_dropNameless (h : dropNameless absolute parts = last :: more) :
    named absolute parts.reverse = named absolute more.reverse ++ [last] := by
  fun_induction dropNameless absolute parts with
  | case1 => cases h
  | case2 => cases h
  | case3 only hname =>
    cases h
    simp [named, hname]
  | case4 first rest hrest hname ih =>
    have hne : rest.reverse ≠ [] := by simpa using hrest
    rw [List.reverse_cons, named_concat_nameless hne hname, ih h]
  | case5 first rest hrest hname =>
    cases h
    rw [List.reverse_cons, named_concat (not_or.mp hname)]

variable {p : Path}

theorem components_of_backwards (h : p.backwards = last :: more) :
    p.components = componentsOf p.isAbsolute more.reverse ++ [.ofSegment last] := by
  have hnamed := named_reverse_of_dropNameless h
  rw [List.reverse_reverse] at hnamed
  rw [components, componentsOf, hnamed, List.map_append, ← List.append_assoc]
  rfl

theorem named_of_backwards (h : p.backwards = []) : named p.isAbsolute p.segments = [] := by
  have hnamed := named_reverse_dropNameless p.isAbsolute p.segments.reverse
  rw [List.reverse_reverse] at hnamed
  rw [← hnamed, ← backwards, h]
  rfl

/-- The name of a file is the last component, if that is a name. -/
theorem fileName?_eq_some_iff {name : Bytes} :
    p.fileName? = some name ↔ p.components.getLast? = some (.name name) := by
  unfold fileName?
  cases h : p.backwards with
  | nil =>
    rw [components, componentsOf, named_of_backwards h]
    cases p.isAbsolute <;> simp
  | cons last more =>
    rw [components_of_backwards h, List.getLast?_concat, Component.ofSegment]
    split_ifs <;> simp_all

theorem slash_notMem_segments (h : segment ∈ p.segments) : slash ∉ segment := by
  have hpiece : segment ∈ pieces slash p.bytes := by
    rw [segments] at h
    split at h
    · exact List.mem_of_mem_tail h
    · exact h
  intro hslash
  exact (mem_of_mem_pieces hpiece hslash).2 rfl

theorem slash_notMem_fileName? {name : Bytes} (h : p.fileName? = some name) : slash ∉ name := by
  unfold fileName? at h
  split at h
  · next last more hbackwards =>
    split_ifs at h
    cases h
    have hmem : name ∈ p.backwards := by
      rw [hbackwards]
      exact List.mem_cons_self
    exact slash_notMem_segments (List.mem_reverse.mp ((dropNameless_suffix _ _).subset hmem))
  · cases h

/-! ### Parents and children -/

/-- Segments put together again have the same components. -/
theorem components_intercalate (hslash : ∀ segment ∈ parts, slash ∉ segment)
    (hfirst : absolute = false → parts.head? ≠ some []) :
    components ⟨if absolute then slash :: [slash].intercalate parts
      else [slash].intercalate parts⟩ = componentsOf absolute parts := by
  -- no segment at all is spelt like an empty one
  have hpieces : named absolute (pieces slash ([slash].intercalate parts)) =
      named absolute parts := by
    cases parts with
    | nil => exact named_concat_empty absolute []
    | cons first more => rw [pieces_intercalate (List.cons_ne_nil first more) hslash]
  cases absolute with
  | true =>
    have hcut : pieces slash (slash :: [slash].intercalate parts) =
        [] :: pieces slash ([slash].intercalate parts) := by simp [pieces]
    have habsolute : isAbsolute ⟨slash :: [slash].intercalate parts⟩ = true := rfl
    simp only [components, componentsOf, segments, habsolute, hcut, ↓reduceIte, List.tail_cons,
      hpieces]
  | false =>
    have habsolute : isAbsolute ⟨[slash].intercalate parts⟩ = false := by
      cases parts with
      | nil => rfl
      | cons first more =>
        cases first with
        | nil => exact absurd rfl (hfirst rfl)
        | cons b rest =>
          have hb : b ≠ slash := fun hb =>
            hslash _ List.mem_cons_self (hb ▸ List.mem_cons_self)
          cases more <;> simp [isAbsolute, List.intercalate_cons_cons, hb]
    simp only [components, componentsOf, segments, habsolute, Bool.false_eq_true, ↓reduceIte,
      hpieces]

theorem head?_segments_ne_nil (hrelative : p.isAbsolute = false) (hne : p.bytes ≠ []) :
    p.segments.head? ≠ some [] := by
  obtain ⟨bytes⟩ := p
  cases bytes with
  | nil => exact absurd rfl hne
  | cons b rest =>
    have hb : b ≠ slash := by simpa [isAbsolute] using hrelative
    rw [segments, hrelative, pieces, if_neg hb]
    cases pieces slash rest <;> simp

/-- The parent of a path has all components but the last one. -/
theorem exists_parent?_of_components {directory : List Component} {last : Component}
    (h : p.components = directory ++ [last]) (hlast : last ≠ .root) :
    ∃ parent, p.parent? = some parent ∧ parent.components = directory := by
  cases hbackwards : p.backwards with
  | nil =>
    rw [components, componentsOf, named_of_backwards hbackwards] at h
    cases habsolute : p.isAbsolute <;> simp [habsolute] at h
    rw [List.singleton_eq_append_iff] at h
    simp_all
  | cons final more =>
    have hcomponents := components_of_backwards hbackwards
    obtain ⟨rfl, -⟩ := List.append_inj' (h.symm.trans hcomponents) rfl
    have hsuffix := dropNameless_suffix p.isAbsolute p.segments.reverse
    rw [← backwards, hbackwards] at hsuffix
    have hkept := (dropNameless_suffix p.isAbsolute more).trans (List.suffix_cons final more)
    have hfront : (dropNameless p.isAbsolute more).reverse <+: p.segments :=
      List.reverse_suffix.mp (by simpa using hkept.trans hsuffix)
    -- an empty segment in front would make the parent of a relative path absolute
    have hfirst (hrelative : p.isAbsolute = false) :
        (dropNameless p.isAbsolute more).reverse.head? ≠ some [] := by
      intro hhead
      have hne : p.bytes ≠ [] := by
        intro hempty
        obtain ⟨bytes⟩ := p
        subst hempty
        cases hbackwards
      refine head?_segments_ne_nil hrelative hne ?_
      obtain ⟨rest, hrest⟩ := hfront
      rw [← hrest, List.head?_append, hhead]
      rfl
    rw [parent?, hbackwards]
    refine ⟨_, rfl, ?_⟩
    rw [components_intercalate (fun segment hmem => slash_notMem_segments (hfront.subset hmem))
      hfirst, componentsOf, named_reverse_dropNameless, componentsOf]

/-! ### Names joined to a directory -/

theorem isAbsolute_append_slash (front rest : Bytes) :
    isAbsolute ⟨front ++ slash :: rest⟩ = isAbsolute ⟨front ++ [slash]⟩ := by
  cases front <;> simp [isAbsolute]

/-- A segment behind a slash comes after the segments in front of it. -/
theorem segments_append_slash (front rest : Bytes) (hrest : slash ∉ rest) :
    segments ⟨front ++ slash :: rest⟩ =
      (if isAbsolute ⟨front ++ [slash]⟩ then (pieces slash front).tail
        else pieces slash front) ++ [rest] := by
  rw [segments, isAbsolute_append_slash]
  simp only [pieces_append_separator, pieces_of_notMem hrest]
  split
  · rw [List.tail_append_of_ne_nil (pieces_ne_nil slash front)]
  · rfl

theorem components_append_slash (front : Bytes) :
    components ⟨front ++ [slash]⟩ =
      componentsOf (isAbsolute ⟨front ++ [slash]⟩) (if isAbsolute ⟨front ++ [slash]⟩
        then (pieces slash front).tail else pieces slash front) := by
  rw [components, segments_append_slash front [] List.not_mem_nil, componentsOf,
    named_concat_empty, componentsOf]

theorem components_concat_slash {front : Bytes} (hne : front ≠ []) :
    components ⟨front ++ [slash]⟩ = components ⟨front⟩ := by
  have habsolute : isAbsolute ⟨front ++ [slash]⟩ = isAbsolute ⟨front⟩ := by
    cases front with
    | nil => exact absurd rfl hne
    | cons b rest => rfl
  rw [components_append_slash, habsolute, components, segments]

variable {name : Bytes}

theorem components_append_name (front : Bytes) (hslash : slash ∉ name)
    (hname : name ≠ [] ∧ name ≠ current) :
    components ⟨front ++ slash :: name⟩ =
      components ⟨front ++ [slash]⟩ ++ [.ofSegment name] := by
  rw [components, segments_append_slash front name hslash, isAbsolute_append_slash, componentsOf,
    named_concat hname, List.map_append, ← List.append_assoc, components_append_slash]
  rfl

theorem components_join (directory : Path) (hslash : slash ∉ name)
    (hname : name ≠ [] ∧ name ≠ current) :
    (directory.join ⟨name⟩).components = directory.components ++ [.ofSegment name] := by
  obtain ⟨front⟩ := directory
  have hrelative : isAbsolute ⟨name⟩ = false := by
    rw [isAbsolute, decide_eq_false_iff_not]
    exact fun hhead => hslash (List.mem_of_head? hhead)
  rw [join, hrelative]
  simp only [Bool.false_eq_true, ↓reduceIte]
  split
  · next hplain =>
    rcases hplain with rfl | hlast
    · have hsegments : segments ⟨name⟩ = [name] := by
        rw [segments, hrelative, pieces_of_notMem hslash]
        rfl
      have hnamed : named false [name] = [name] := by simp [named, hname]
      rw [List.nil_append, components, hrelative, hsegments, componentsOf, hnamed]
      rfl
    · obtain ⟨before, rfl⟩ := List.getLast?_eq_some_iff.mp hlast
      rw [List.append_assoc, List.singleton_append, components_append_name before hslash hname]
  · next hplain =>
    rw [components_append_name front hslash hname,
      components_concat_slash fun hempty => hplain (.inl hempty)]

/-! ### File names -/

theorem splitName_eq_some_iff {stem extension : Bytes} :
    splitName name = (stem, some extension) ↔
      name = stem ++ dot :: extension ∧ dot ∉ extension ∧ stem ≠ [] := by
  unfold splitName
  cases hcut : cutAtLast? dot name with
  | none =>
    constructor
    · nofun
    · rintro ⟨hname, hdot, -⟩
      rw [cutAtLast?_eq_some_iff.mpr ⟨hname, hdot⟩] at hcut
      cases hcut
  | some parts =>
    obtain ⟨front, back⟩ := parts
    obtain ⟨hname, hback⟩ := cutAtLast?_eq_some_iff.mp hcut
    constructor
    · intro h
      dsimp only at h
      by_cases hfront : front = []
      · rw [if_pos hfront] at h
        cases h
      · rw [if_neg hfront] at h
        obtain ⟨rfl, h⟩ := Prod.mk.inj h
        cases h
        exact ⟨hname, hback, hfront⟩
    · rintro ⟨hname', hdot, hstem⟩
      rw [cutAtLast?_eq_some_iff.mpr ⟨hname', hdot⟩] at hcut
      cases hcut
      exact if_neg hstem

theorem splitName_fst_isPrefix (name : Bytes) : (splitName name).1 <+: name := by
  unfold splitName
  split
  · next stem extension hcut =>
    split
    · exact List.prefix_refl name
    · rw [(cutAtLast?_eq_some_iff.mp hcut).1]
      exact List.prefix_append stem _
  · exact List.prefix_refl name

theorem slash_notMem_fileStem? {stem : Bytes} (h : p.fileStem? = some stem) : slash ∉ stem := by
  obtain ⟨name, hname, rfl⟩ := Option.map_eq_some_iff.mp h
  exact fun hslash => slash_notMem_fileName? hname ((splitName_fst_isPrefix name).subset hslash)

theorem dot_slash_notMem_extension? {extension : Bytes} (h : p.extension? = some extension) :
    dot ∉ extension ∧ slash ∉ extension := by
  obtain ⟨name, hname, hsplit⟩ := Option.bind_eq_some_iff.mp h
  have hparts : splitName name = ((splitName name).1, some extension) := Prod.ext rfl hsplit
  obtain ⟨hcut, hdot, -⟩ := splitName_eq_some_iff.mp hparts
  refine ⟨hdot, fun hslash => slash_notMem_fileName? hname ?_⟩
  rw [hcut]
  simp [hslash]

/-- A path to a name right below a directory. -/
structure IsChild (p directory : Path) (name : Bytes) : Prop where
  components : p.components = directory.components ++ [.name name]
  parent : ∃ parent, p.parent? = some parent ∧ parent.components = directory.components
  fileName : p.fileName? = some name

theorem isChild_join (directory : Path) (hslash : slash ∉ name) (hne : name ≠ [])
    (hcurrent : name ≠ current) (habove : name ≠ above) :
    (directory.join ⟨name⟩).IsChild directory name := by
  have hsegment : Component.ofSegment name = .name name := by
    rw [Component.ofSegment, if_neg hcurrent, if_neg habove]
  have hcomponents := components_join directory hslash ⟨hne, hcurrent⟩
  rw [hsegment] at hcomponents
  constructor
  · exact hcomponents
  · exact exists_parent?_of_components hcomponents nofun
  · rw [fileName?_eq_some_iff, hcomponents, List.getLast?_concat]

end PageQuery.Path
