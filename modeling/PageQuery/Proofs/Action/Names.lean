import Mathlib.Data.List.Nodup
import PageQuery.Document.Basic
import PageQuery.Proofs.Action.Naming
import PageQuery.Proofs.Files.Child
import PageQuery.Proofs.Text.Utf8

/-!
The names that exports can have. There is no slash in them, whatever the query, and they differ by
their numbers; so one is left for an export wherever fewer entries than numbers are.
-/
namespace PageQuery

namespace Text

theorem ofNat_injective : Function.Injective ofNat := by
  intro n k h
  rw [← Nat.ofDigitChars_toDigits (b := 10) (n := n) (by decide) (by decide), ← ofNat, h, ofNat,
    Nat.ofDigitChars_toDigits (by decide) (by decide)]

theorem isDigit_of_mem_ofNat {c : Char} {n : Nat} (h : c ∈ ofNat n) : c.isDigit = true :=
  Nat.isDigit_of_mem_toDigits (by decide) (by decide) h

theorem isDigit_of_mem_ofNatPadded {c : Char} {width n : Nat} (h : c ∈ ofNatPadded width n) :
    c.isDigit = true := by
  rcases List.mem_append.mp h with hzero | hdigit
  · rw [List.eq_of_mem_replicate hzero]
    rfl
  · exact isDigit_of_mem_ofNat hdigit

end Text

namespace Timestamp

theorem mem_renderYear {year : Int} {c : Char} (h : c ∈ renderYear year) :
    c.isDigit = true ∨ c ∈ ['-', '+', '_'] := by
  unfold renderYear at h
  split at h
  · exact .inl (Text.isDigit_of_mem_ofNatPadded h)
  · rcases List.mem_cons.mp h with rfl | hdigit
    · refine .inr ?_
      split <;> decide
    · exact .inl (Text.isDigit_of_mem_ofNatPadded hdigit)

/-- A moment in a file name is made of digits, signs and an underscore. -/
theorem mem_render {t : Timestamp} {c : Char} (h : c ∈ t.render) :
    c.isDigit = true ∨ c ∈ ['-', '+', '_'] := by
  simp only [render, List.mem_append, List.mem_cons] at h
  rcases h with ((((hyear | hmonth) | hday) | rfl | hhour) | hminute) | hsecond
  · exact mem_renderYear hyear
  · exact .inl (Text.isDigit_of_mem_ofNatPadded hmonth)
  · exact .inl (Text.isDigit_of_mem_ofNatPadded hday)
  · exact .inr (by decide)
  · exact .inl (Text.isDigit_of_mem_ofNatPadded hhour)
  · exact .inl (Text.isDigit_of_mem_ofNatPadded hminute)
  · exact .inl (Text.isDigit_of_mem_ofNatPadded hsecond)

end Timestamp

namespace Naming

theorem notMem_unsafeChars_of_mem_sanitize {query : Text} {c : Char} (h : c ∈ sanitize query) :
    c ∉ unsafeChars := by
  obtain ⟨d, -, rfl⟩ := List.mem_map.mp h
  split
  · decide
  · assumption

theorem slash_notMem_baseOf (source : Path) : '/' ∉ baseOf source := by
  unfold baseOf
  split
  · next stem hstem =>
    intro h
    exact Path.slash_notMem_fileStem? hstem
      (Text.byte_mem_of_mem_decodeLossy (by decide) (by decide) h)
  · decide

theorem slash_notMem_exportStem (source : Path) (query : Text) (time : Timestamp) :
    '/' ∉ exportStem (baseOf source) query time := by
  have hquery : '/' ∉ sanitize query := fun h =>
    notMem_unsafeChars_of_mem_sanitize h (by decide)
  have htime : '/' ∉ time.render := by
    intro h
    rcases Timestamp.mem_render h with hdigit | hsign
    · exact absurd hdigit (by decide)
    · exact absurd hsign (by decide)
  simp [exportStem, slash_notMem_baseOf, hquery, htime]

/-- What stands in a name between the moment and the extension. -/
inductive IsSuffix : Text → Prop
  | empty : IsSuffix []
  | number {n : Nat} (hfirst : 1 ≤ n) (hlast : n ≤ numberCount) : IsSuffix ('_' :: Text.ofNat n)

theorem IsSuffix.notMem {suffix : Text} (h : IsSuffix suffix) {c : Char} (hdigit : c.isDigit = false)
    (hmark : c ≠ '_') : c ∉ suffix := by
  cases h with
  | empty => exact List.not_mem_nil
  | number hfirst hlast =>
    intro hmem
    rcases List.mem_cons.mp hmem with hsame | hnumber
    · exact hmark hsame
    · rw [Text.isDigit_of_mem_ofNat hnumber] at hdigit
      cases hdigit

theorem IsSuffix.slash_notMem {suffix : Text} (h : IsSuffix suffix) : '/' ∉ suffix :=
  h.notMem (by decide) (by decide)

theorem exists_suffix (files : FileTree) (source : Path) (directory : Option Path) (query : Text)
    (time : Timestamp) (extension : Text) :
    ∃ suffix, IsSuffix suffix ∧ exportPath files source directory query time extension =
      (directory.getD (directoryOf source)).join
        (.ofText (exportStem (baseOf source) query time ++ suffix ++ '.' :: extension)) := by
  rcases exportPath_cases files source directory query time extension with
    hplain | ⟨number, hfound, hnumbered⟩
  · refine ⟨[], .empty, ?_⟩
    rw [hplain, plainPath, List.append_nil]
  · obtain ⟨hfirst, hlast, -⟩ := leastFree?_eq_some_iff.mp hfound
    refine ⟨'_' :: Text.ofNat number, .number hfirst (by omega), ?_⟩
    rw [hnumbered, numberedPath, numberedName, List.append_assoc, List.cons_append]

end Naming

namespace Document

theorem notMem_extensionOf (p : Path) : '.' ∉ extensionOf p ∧ '/' ∉ extensionOf p := by
  unfold extensionOf
  cases hextension : p.extension? with
  | none => decide
  | some bytes =>
    obtain ⟨hdot, hslash⟩ := Path.dot_slash_notMem_extension? hextension
    cases htext : Text.decode? bytes with
    | none => simp [htext]; decide
    | some t =>
      rw [Option.bind_some, htext, Option.getD_some]
      constructor
      · exact fun h => hdot (Text.byte_mem_of_mem_decode? (by decide) (by decide) htext h)
      · exact fun h => hslash (Text.byte_mem_of_mem_decode? (by decide) (by decide) htext h)

end Document

namespace Naming

/-- The name of an export with what stands between the moment and the extension. -/
def nameWith (source : Path) (query : Text) (time : Timestamp) (suffix : Text) : Text :=
  baseOf source ++ '_' :: sanitize query ++ '_' :: time.render ++ suffix ++
    '.' :: Document.extensionOf source

variable {source : Path} {query other suffix suffix' : Text} {time : Timestamp}

theorem exists_nameWith (files : FileTree) (source : Path) (directory : Option Path) (query : Text)
    (time : Timestamp) :
    ∃ suffix, IsSuffix suffix ∧
      exportPath files source directory query time (Document.extensionOf source) =
        (directory.getD (directoryOf source)).join
          (.ofText (nameWith source query time suffix)) :=
  exists_suffix files source directory query time (Document.extensionOf source)

theorem slash_notMem_nameWith (hsuffix : IsSuffix suffix) :
    '/' ∉ nameWith source query time suffix := by
  have hstem := slash_notMem_exportStem source query time
  have hextension := (Document.notMem_extensionOf source).2
  simp only [exportStem, List.mem_append, List.mem_cons, not_or] at hstem
  simp [nameWith, hstem, hsuffix.slash_notMem, hextension]

theorem isName_nameWith (hsuffix : IsSuffix suffix) :
    Path.IsName (Text.encode (nameWith source query time suffix)) := by
  -- the underscore tells it from the names that directories have
  have hunderscore : Text.byte '_'.toNat ∈ Text.encode (nameWith source query time suffix) :=
    (Text.byte_mem_encode_iff (by decide)).mpr (by simp [nameWith])
  constructor
  · intro hslash
    exact slash_notMem_nameWith hsuffix ((Text.byte_mem_encode_iff (by decide)).mp hslash)
  · exact List.ne_nil_of_mem hunderscore
  · intro hcurrent
    rw [hcurrent] at hunderscore
    exact absurd hunderscore (by decide)
  · intro habove
    rw [habove] at hunderscore
    exact absurd hunderscore (by decide)

/-- Names with different numbers differ. -/
theorem eq_of_nameWith {n k : Nat} (h : nameWith source query time ('_' :: Text.ofNat n) =
    nameWith source query time ('_' :: Text.ofNat k)) : n = k := by
  simp only [nameWith, List.append_assoc, List.append_cancel_left_eq, List.append_cancel_right_eq,
    List.cons_append, List.cons.injEq, true_and] at h
  exact Text.ofNat_injective h

theorem numberedPath_extensionOf (source : Path) (directory : Option Path) (query : Text)
    (time : Timestamp) (n : Nat) :
    numberedPath source directory query time (Document.extensionOf source) n =
      (directory.getD (directoryOf source)).join
        (.ofText (nameWith source query time ('_' :: Text.ofNat n))) := by
  simp [numberedPath, numberedName, exportStem, nameWith]

/-- A name is left for an export, unless there are as many entries as numbers. -/
theorem nameLeft_of_entries {files : FileTree} (hentries : files.entries.length < numberCount)
    (source : Path) (directory : Option Path) (query : Text) (time : Timestamp) :
    NameLeft files source directory query time (Document.extensionOf source) := by
  obtain ⟨parent, hparent⟩ :=
    files.exists_parent_of_pathExists (directory.getD (directoryOf source))
  let key (n : Nat) : TreeKey :=
    parent ++ [Text.encode (nameWith source query time ('_' :: Text.ofNat n))]
  by_contra hnone
  -- otherwise every number has an entry of its own
  have htaken : (List.range' 1 numberCount).map key ⊆ files.entries.map (·.1) := by
    intro place hmem
    obtain ⟨n, hn, rfl⟩ := List.mem_map.mp hmem
    obtain ⟨hfirst, hlast⟩ := List.mem_range'_1.mp hn
    have hsuffix : IsSuffix ('_' :: Text.ofNat n) := .number hfirst (by omega)
    refine hparent _ (isName_nameWith hsuffix) ?_
    by_contra hfree
    refine hnone (.inr ⟨n, hfirst, by omega, ?_⟩)
    rw [numberedPath_extensionOf]
    exact Bool.eq_false_iff.mpr hfree
  have hdistinct : ((List.range' 1 numberCount).map key).Nodup := by
    refine List.Nodup.map (fun n k hkey => ?_) List.nodup_range'
    have hname := List.singleton_inj.mp (List.append_cancel_left hkey)
    exact eq_of_nameWith (Text.encode_injective hname)
  have hlength := hdistinct.length_le_of_subset htaken
  rw [List.length_map, List.length_range', List.length_map] at hlength
  omega

end Naming
end PageQuery
