import PageQuery.Proofs.Action.Export

/-!
Where an export goes. Its name has no slash in it, so it stays in the directory chosen; and it has
the extension of its source.
-/
namespace PageQuery

namespace Naming

/-- The directory of an export: the one given, or else the parent of the source, or else the current
one. -/
inductive IsChosen (source : Path) : Option Path → Path → Prop
  | given (directory : Path) : IsChosen source (some directory) directory
  | parent {parent : Path} (hparent : source.parent? = some parent) (hne : parent.bytes ≠ []) :
    IsChosen source none parent
  | current (hnone : ∀ parent, source.parent? = some parent → parent.bytes = []) :
    IsChosen source none (.ofText ".")

theorem isChosen_getD (source : Path) (directory : Option Path) :
    IsChosen source directory (directory.getD (directoryOf source)) := by
  cases directory with
  | some given => exact .given given
  | none =>
    rw [Option.getD_none, directoryOf]
    cases hparent : source.parent? with
    | none =>
      refine .current fun parent h => ?_
      rw [hparent] at h
      cases h
    | some parent =>
      dsimp only
      split
      · next hempty =>
        refine .current fun other h => ?_
        rw [hparent] at h
        cases h
        exact hempty
      · next hne => exact .parent hparent hne

end Naming

namespace Path

variable {name : Text}

theorem isChild_join_ofText (directory : Path) (hslash : '/' ∉ name) (hne : name ≠ [])
    (hcurrent : name ≠ ".") (habove : name ≠ "..") :
    (directory.join (.ofText name)).IsChild directory (Text.encode name) := by
  refine isChild_join directory ?_ ?_ ?_ ?_
  · exact fun h => hslash ((Text.byte_mem_encode_iff (by decide)).mp h)
  · exact fun h => hne (Text.encode_injective h)
  · exact fun h => hcurrent (Text.encode_injective h)
  · exact fun h => habove (Text.encode_injective h)

end Path

namespace Document

theorem extensionOf_eq {p : Path} {stem extension : Text}
    (hname : p.fileName? = some (Text.encode (stem ++ '.' :: extension))) (hstem : stem ≠ [])
    (hdot : '.' ∉ extension) : extensionOf p = extension := by
  have hsplit : Path.splitName (Text.encode (stem ++ '.' :: extension)) =
      (Text.encode stem, some (Text.encode extension)) := by
    refine Path.splitName_eq_some_iff.mpr ⟨?_, ?_, ?_⟩
    · rw [Text.encode_append, Text.encode_cons]
      rfl
    · exact fun h => hdot ((Text.byte_mem_encode_iff (by decide)).mp h)
    · exact fun h => hstem (Text.encode_injective h)
  rw [extensionOf, Path.extension?, hname, Option.bind_some, hsplit, Option.bind_some,
    Text.decode?_encode, Option.getD_some]

/-- A query cannot move an export: the export is a child of the directory chosen, by a name in which
the query stands with its unsafe characters replaced. The name has the extension of the source. -/
theorem exportPath_isChild {σ ω : Type} (d : Document σ ω) (files : FileTree)
    (directory : Option Path) (query : Text) (time : Timestamp) :
    (Naming.sanitize query).length = query.length ∧
      (∀ c ∈ Naming.sanitize query, c ∉ ['\\', '/', ':', '*', '?', '"', '<', '>', '|', '&']) ∧
      ∃ chosen suffix name, Naming.IsChosen d.path directory chosen ∧ Naming.IsSuffix suffix ∧
        name = Naming.baseOf d.path ++ '_' :: Naming.sanitize query ++ '_' :: time.render ++
          suffix ++ '.' :: d.extension ∧
        '/' ∉ name ∧ (Path.ofText name).isAbsolute = false ∧ name ≠ "." ∧ name ≠ ".." ∧
        d.exportPath files directory query time = chosen.join (.ofText name) ∧
        (d.exportPath files directory query time).IsChild chosen (Text.encode name) ∧
        extensionOf (d.exportPath files directory query time) = d.extension := by
  refine ⟨List.length_map _, fun c hc => Naming.notMem_unsafeChars_of_mem_sanitize hc, ?_⟩
  obtain ⟨suffix, hsuffix, hpath⟩ :=
    Naming.exists_suffix files d.path directory query time d.extension
  obtain ⟨hdot, hextension⟩ := notMem_extensionOf d.path
  have hstem := Naming.slash_notMem_exportStem d.path query time
  -- with an underscore in it, a name is none of those that directories have
  have hlong : '_' ∈ Naming.exportStem (Naming.baseOf d.path) query time := by
    simp [Naming.exportStem]
  generalize hname : Naming.exportStem (Naming.baseOf d.path) query time ++ suffix ++
    '.' :: d.extension = name at hpath
  have hunderscore : '_' ∈ name := by
    rw [← hname]
    simp [hlong]
  have hslash : '/' ∉ name := by
    rw [← hname]
    simp [hstem, hsuffix.slash_notMem, extension, hextension]
  have hcurrent : name ≠ "." := by
    rintro rfl
    exact absurd hunderscore (by decide)
  have habove : name ≠ ".." := by
    rintro rfl
    exact absurd hunderscore (by decide)
  have hchild := Path.isChild_join_ofText (directory.getD (Naming.directoryOf d.path)) hslash
    (List.ne_nil_of_mem hunderscore) hcurrent habove
  rw [← hpath] at hchild
  refine ⟨_, suffix, name, Naming.isChosen_getD d.path directory, hsuffix, hname.symm, hslash, ?_,
    hcurrent, habove, hpath, hchild, ?_⟩
  · rw [Path.isAbsolute, decide_eq_false_iff_not]
    intro hhead
    exact hslash ((Text.byte_mem_encode_iff (by decide)).mp (List.mem_of_head? hhead))
  · have hfile := hchild.fileName
    rw [← hname] at hfile
    exact extensionOf_eq hfile (List.ne_nil_of_mem (List.mem_append_left suffix hlong)) hdot

end Document
end PageQuery
