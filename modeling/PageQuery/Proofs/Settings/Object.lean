import PageQuery.Proofs.Json.Skipping
import PageQuery.Proofs.Settings.Entry

/-!
Object texts as settings. The members that give settings replace the defaults, whatever stands between
them and in whichever order they come. Only a setting that is given twice or has a value of another
kind, a name that is no text, and anything but white space behind the object are refused.
-/
namespace PageQuery.Settings

open Json (IsSpace Node Problem RawString Writes)

theorem Field.name_injective {field field' : Field} (h : field.name = field'.name) :
    field = field' := by
  have hname := Field.ofName?_name field
  rw [h, Field.ofName?_name] at hname
  exact (Option.some.inj hname).symm

/-- How often members give a setting, whatever their values are. -/
def timesGiven (field : Field) (members : List (RawString × Node)) : Nat :=
  members.countP fun member => member.1.text = .ok field.name

theorem Lists.timesGiven_eq {members : List (RawString × Node)} {entries : List Entry}
    (h : Lists members entries) (field : Field) :
    timesGiven field members = (entries.map Entry.field).count field := by
  unfold timesGiven
  induction h with
  | nil => rfl
  | @known key value more e entries hkey _ _ ih =>
    have hsame : e.field.name = field.name ↔ e.field = field :=
      ⟨Field.name_injective, congrArg Field.name⟩
    rw [List.countP_cons, ih, List.map_cons, List.count_cons]
    simp [hkey, hsame]
  | other hkey hname _ ih =>
    rw [List.countP_cons, ih]
    simp [hkey, hname field]

theorem Lists.nodup_iff {members : List (RawString × Node)} {entries : List Entry}
    (h : Lists members entries) :
    (entries.map Entry.field).Nodup ↔ ∀ field, timesGiven field members ≤ 1 := by
  simp only [List.nodup_iff_count_le_one, h.timesGiven_eq]

theorem Lists.exists_name {members : List (RawString × Node)} {entries : List Entry}
    (h : Lists members entries) : ∀ member ∈ members, ∃ name, member.1.text = .ok name := by
  induction h with
  | nil => exact fun _ hmember => absurd hmember List.not_mem_nil
  | known hkey _ _ ih | other hkey _ _ ih => exact List.forall_mem_cons.mpr ⟨⟨_, hkey⟩, ih⟩

section

variable {before w after : Text} {members : List (RawString × Node)} (hbefore : IsSpace before)
  (hobject : Writes w (.value (.object members .closed)))
include hbefore hobject

/-- When the text of an object is read, and as what. -/
theorem parse_object_eq_ok_iff {s : Settings} :
    parse (before ++ (w ++ after)) = .ok s ↔ IsSpace after ∧ ∃ entries, Lists members entries ∧
      (∀ field, timesGiven field members ≤ 1) ∧ s = entries.foldl set {} := by
  by_cases hafter : IsSpace after
  · rw [parse_eq_map, Given.parse, Json.read_writes _ hbefore hobject hafter, Given.ofNode_object]
    simp only [Except.map_eq_ok_iff, ofMembers_start_eq_ok_iff hobject.skip_of_mem, hafter, true_and]
    constructor
    · rintro ⟨g, ⟨entries, hlists, hnodup, rfl⟩, rfl⟩
      exact ⟨entries, hlists, hlists.nodup_iff.mp hnodup, Given.toSettings_foldl_set entries {}⟩
    · rintro ⟨entries, hlists, honce, rfl⟩
      exact ⟨_, ⟨entries, hlists, hlists.nodup_iff.mpr honce, rfl⟩,
        Given.toSettings_foldl_set entries {}⟩
  · obtain ⟨problem, hread⟩ :=
      Json.read_writes_object Given.ofNode hbefore hobject hafter
    rw [parse_eq_map, Given.parse, hread]
    simp [hafter, Except.map]

/-- A text is refused if it is not read as any settings. -/
theorem exists_error_of_parse_object
    (h : ¬ (IsSpace after ∧ ∃ entries, Lists members entries ∧
      ∀ field, timesGiven field members ≤ 1)) :
    ∃ problem, parse (before ++ (w ++ after)) = .error problem := by
  cases hparse : parse (before ++ (w ++ after)) with
  | error problem => exact ⟨problem, rfl⟩
  | ok s =>
    obtain ⟨hafter, entries, hlists, honce, -⟩ :=
      (parse_object_eq_ok_iff hbefore hobject).mp hparse
    exact absurd ⟨hafter, entries, hlists, honce⟩ h

end

/-- An object is read iff each setting is given once at most and as what it should be, and then as the
defaults with these settings replaced. The order of the members does not matter, nor do the members
that give no setting, as long as their names are texts. -/
theorem parse_replaces_defaults {before w after : Text} {members : List (RawString × Node)}
    (hbefore : IsSpace before) (hobject : Writes w (.value (.object members .closed))) :
    (∀ s, parse (before ++ (w ++ after)) = .ok s ↔ IsSpace after ∧ ∃ entries, Lists members entries ∧
      (∀ field, timesGiven field members ≤ 1) ∧ s = entries.foldl set {}) ∧
    (∀ {before' w' after' : Text} {members' : List (RawString × Node)} (entries entries' : List Entry),
      IsSpace before' → Writes w' (.value (.object members' .closed)) →
      Lists members entries → Lists members' entries' → entries.Perm entries' →
      (∀ field, timesGiven field members ≤ 1) → IsSpace after → IsSpace after' →
      parse (before' ++ (w' ++ after')) = parse (before ++ (w ++ after))) ∧
    ((∃ field, 2 ≤ timesGiven field members) →
      ∃ problem, parse (before ++ (w ++ after)) = .error problem) ∧
    ((∃ member ∈ members, ∃ problem, member.1.text = .error problem) →
      ∃ problem, parse (before ++ (w ++ after)) = .error problem) ∧
    (¬ IsSpace after → ∃ problem, parse (before ++ (w ++ after)) = .error problem) := by
  refine ⟨fun s => parse_object_eq_ok_iff hbefore hobject, ?_, ?_, ?_, ?_⟩
  · intro before' w' after' members' entries entries' hbefore' hobject' hlists hlists' hperm honce
      hafter hafter'
    have hnodup := hlists.nodup_iff.mpr honce
    have honce' := hlists'.nodup_iff.mp ((hperm.map Entry.field).nodup_iff.mp hnodup)
    have hparse : parse (before ++ (w ++ after)) = .ok (entries'.foldl set {}) :=
      (parse_object_eq_ok_iff hbefore hobject).mpr
        ⟨hafter, entries, hlists, honce, (foldl_set_perm hperm hnodup {}).symm⟩
    rw [hparse]
    exact (parse_object_eq_ok_iff hbefore' hobject').mpr ⟨hafter', entries', hlists', honce', rfl⟩
  · rintro ⟨field, htwice⟩
    refine exists_error_of_parse_object hbefore hobject ?_
    rintro ⟨-, entries, -, honce⟩
    exact absurd (honce field) (by omega)
  · rintro ⟨member, hmember, problem, hname⟩
    refine exists_error_of_parse_object hbefore hobject ?_
    rintro ⟨-, entries, hlists, -⟩
    obtain ⟨name, htext⟩ := hlists.exists_name member hmember
    rw [hname] at htext
    cases htext
  · intro hafter
    exact exists_error_of_parse_object hbefore hobject fun h => hafter h.1

/-- Two settings, and between them a member whose value is half a character and no text. -/
theorem parse_replaces_defaults_halfValue :
    let w : Text := "\x7b\"printWaitMs\":0,\"x\":\"\\ud800\",\"outputDir\":null\x7d"
    parse ([' '] ++ (w ++ ['\n'])) = .ok { printWait := 0 } ∧
      ∃ problem, parse ([' '] ++ (w ++ [','])) = .error problem := by
  intro w
  have hbefore : IsSpace [' '] := Json.isSpace_space
  have hafter : IsSpace ['\n'] := Json.isSpace_cons (by decide) Json.isSpace_nil
  have hcomma : ¬ IsSpace [','] := fun h => absurd (h ',' List.mem_cons_self) (by decide)
  let values : List (Text × Text) :=
    [("printWaitMs", "0"), ("x", "\"\\ud800\""), ("outputDir", "null")]
  let zero : Node := .number ⟨false, "0", none, none⟩
  let half : Node := .string ⟨[.hex 0xD800], .closed⟩
  have hzero : Writes "0" (.value zero) := .number (Json.Numeral.spells_ofNat 0)
  have hhalf : Writes "\"\\ud800\"" (.value half) := .string (.cons (.hex (by decide)) .nil)
  have hvalues : List.Forall₂ (fun value node => Writes value.2 (.value node)) values
      [zero, half, .null] :=
    .cons hzero (.cons hhalf (.cons .null .nil))
  obtain ⟨keys, hkeys, hmembers⟩ := Json.exists_writes_members hvalues (List.cons_ne_nil _ _)
    (.first Json.isSpace_nil)
  obtain ⟨k₁, keys, rfl, hk₁, hkeys⟩ := List.map_eq_cons_iff.mp hkeys
  obtain ⟨k₂, keys, rfl, hk₂, hkeys⟩ := List.map_eq_cons_iff.mp hkeys
  obtain ⟨k₃, keys, rfl, hk₃, hkeys⟩ := List.map_eq_cons_iff.mp hkeys
  obtain rfl := List.map_eq_nil_iff.mp hkeys
  have hobject : Writes w _ := .object hmembers
  have hother : ∀ field : Field, ("x" : Text) ≠ field.name := by
    rintro (_ | _ | _ | _) <;> decide
  have hwait : Entry.Milliseconds 0 zero := .mk (by decide) (by decide)
  have hlists : Lists [(k₁, zero), (k₂, half), (k₃, .null)] [.printWait 0, .outputDir none] :=
    .known hk₁ (.printWait hwait) (.other hk₂ hother (.known hk₃ .noDirectory .nil))
  obtain ⟨hread, -⟩ := @parse_replaces_defaults [' '] w ['\n'] _ hbefore hobject
  obtain ⟨-, -, -, -, hrefused⟩ := @parse_replaces_defaults [' '] w [','] _ hbefore hobject
  exact ⟨(hread _).mpr ⟨hafter, _, hlists, hlists.nodup_iff.mp (by decide), rfl⟩, hrefused hcomma⟩

/-- Object texts of the grammar that are refused: the name of another member is half a character, a
directory is half a character, and a number is zero with a sign. -/
theorem parse_of_halfName :
    let half : RawString := ⟨[.hex 0xD800], .closed⟩
    let named : Text := "\x7b\"\\ud800\":0\x7d"
    let placed : Text := "\x7b\"outputDir\":\"\\ud800\"\x7d"
    let signed : Text := "\x7b\"printGraceMs\":-0\x7d"
    (Writes named (.value (.object [(half, .number ⟨false, "0", none, none⟩)] .closed)) ∧
      (∀ field : Field, half.text ≠ .ok field.name) ∧
      parse named = .error .unfinishedHexEscape) ∧
    (∃ key, key.text = .ok Field.outputDir.name ∧
      Writes placed (.value (.object [(key, .string half)] .closed)) ∧
      parse placed = .error .unfinishedHexEscape) ∧
    ∃ key, key.text = .ok Field.printGrace.name ∧
      Writes signed (.value (.object [(key, .number ⟨true, "0", none, none⟩)] .closed)) ∧
      parse signed = .error (.invalidType (.float ⟨true, .zero⟩) "u64") := by
  intro half named placed signed
  have hobject {key w : Text} {raw : RawString} {n : Node} (hkey : Json.KeySpells key raw)
      (hvalue : Writes w (.value n)) :
      Writes ('\x7b' :: (key ++ (w ++ ['\x7d']))) (.value (.object [(raw, n)] .closed)) :=
    .object (.member (.first Json.isSpace_nil) hkey hvalue (.endOfObject Json.isSpace_nil))
  have hhalf : Json.Spells "\\ud800" [.hex 0xD800] := .cons (.hex (by decide)) .nil
  have hzero (negative : Bool) : Writes ((if negative then ['-'] else []) ++ ['0'])
      (.value (.number ⟨negative, "0", none, none⟩)) :=
    .number (.mk (Json.Numeral.isDigits_ofNat 0) (fun _ => rfl) .none .none)
  refine ⟨⟨?_, ?_, by decide +kernel⟩, ?_, ?_⟩
  · exact hobject (.mk hhalf Json.isSpace_nil Json.isSpace_nil) (hzero false)
  · rintro field ⟨⟩
  · obtain ⟨key, hkey, hname⟩ :=
      Json.exists_keySpells_quote Field.outputDir.name Json.isSpace_nil
    exact ⟨key, hname, hobject hkey (.string hhalf), by decide +kernel⟩
  · obtain ⟨key, hkey, hname⟩ :=
      Json.exists_keySpells_quote Field.printGrace.name Json.isSpace_nil
    exact ⟨key, hname, hobject hkey (hzero true), by decide +kernel⟩

end PageQuery.Settings
