import Mathlib.Data.List.Nodup
import PageQuery.Proofs.Json.Number
import PageQuery.Proofs.Settings.Given

/-!
What the members of a settings object give: each known name one setting, in any order and between
other members. Reading succeeds iff no setting is given twice and every value is of its kind, and then
the settings that are given take the place of the defaults.
-/
namespace PageQuery.Settings

open Json (Node Numeral Problem RawString)

/-- A setting with the value that it is given. -/
inductive Entry where
  | forcePrint (b : Bool)
  | printGrace (n : Nat)
  | printWait (n : Nat)
  | outputDir (directory : Option Text)

namespace Entry

def field : Entry → Field
  | forcePrint _ => .forcePrint
  | printGrace _ => .printGrace
  | printWait _ => .printWait
  | outputDir _ => .outputDir

/-- A natural number of 64 bits, as its digits write it. -/
inductive Milliseconds : Nat → Node → Prop where
  | mk {n : Nat} {whole : Text} (hwhole : Nat.ofDigitChars 10 whole 0 = n) (hn : n < Word.bound64) :
      Milliseconds n (.number ⟨false, whole, none, none⟩)

theorem milliseconds_ofNat {n : Nat} (h : n < Word.bound64) :
    Milliseconds n (.number ⟨false, Text.ofNat n, none, none⟩) :=
  .mk (Nat.ofDigitChars_toDigits (by decide) (by decide)) h

/-- How the value of a setting stands in a tree. -/
inductive WrittenAs : Entry → Node → Prop where
  | forcePrint (b : Bool) : WrittenAs (.forcePrint b) (.bool b)
  | printGrace {n : Nat} {node : Node} (h : Milliseconds n node) : WrittenAs (.printGrace n) node
  | printWait {n : Nat} {node : Node} (h : Milliseconds n node) : WrittenAs (.printWait n) node
  | noDirectory : WrittenAs (.outputDir none) .null
  | directory {raw : RawString} {t : Text} (h : raw.text = .ok t) :
      WrittenAs (.outputDir (some t)) (.string raw)

end Entry

/-- The settings with one of them replaced. -/
def set (s : Settings) : Entry → Settings
  | .forcePrint b => { s with forcePrint := b }
  | .printGrace n => { s with printGrace := n }
  | .printWait n => { s with printWait := n }
  | .outputDir directory => { s with outputDir := directory.map Path.ofText }

def Given.set (g : Given) : Entry → Given
  | .forcePrint b => { g with forcePrint := some b }
  | .printGrace n => { g with printGrace := some n }
  | .printWait n => { g with printWait := some n }
  | .outputDir directory => { g with outputDir := some directory }

/-- The settings that members give, in their order. Other members may stand between them; every name
is a text. -/
inductive Lists : List (RawString × Node) → List Entry → Prop where
  | nil : Lists [] []
  | known {key : RawString} {value : Node} {more : List (RawString × Node)} {e : Entry}
      {entries : List Entry} (hkey : key.text = .ok e.field.name) (hvalue : e.WrittenAs value)
      (hmore : Lists more entries) : Lists ((key, value) :: more) (e :: entries)
  | other {key : RawString} {value : Node} {more : List (RawString × Node)} {name : Text}
      {entries : List Entry} (hkey : key.text = .ok name) (hname : ∀ field : Field, name ≠ field.name)
      (hmore : Lists more entries) : Lists ((key, value) :: more) entries

theorem set_comm {e e' : Entry} (h : e.field ≠ e'.field) (s : Settings) :
    (s.set e).set e' = (s.set e').set e := by
  cases e <;> cases e' <;> simp_all [Entry.field, set]

/-- It does not matter in which order different settings are replaced. -/
theorem foldl_set_perm {entries entries' : List Entry} (h : entries.Perm entries')
    (hnodup : (entries.map Entry.field).Nodup) (s : Settings) :
    entries.foldl set s = entries'.foldl set s := by
  refine h.foldl_eq' (fun e he e' he' s => ?_) s
  by_cases hfield : e.field = e'.field
  · rw [List.inj_on_of_nodup_map hnodup he he' hfield]
  · exact set_comm hfield s

namespace Given

theorem toSettings_set (g : Given) (e : Entry) : (g.set e).toSettings = g.toSettings.set e := by
  cases e <;> rfl

theorem toSettings_foldl_set (entries : List Entry) (g : Given) :
    (entries.foldl set g).toSettings = entries.foldl Settings.set g.toSettings :=
  (List.foldl_hom toSettings fun g e => (toSettings_set g e).symm).symm

theorem has_set_eq_false_iff {g : Given} {e : Entry} {field : Field} :
    (g.set e).has field = false ↔ e.field ≠ field ∧ g.has field = false := by
  cases e <;> cases field <;> simp [set, has, Entry.field]

theorem toBool_eq_ok_iff {node : Node} {b : Bool} : node.toBool = .ok b ↔ node = .bool b := by
  cases node with
  | bool b' => simp [Node.toBool]
  | _ => simp [Node.toBool]

theorem toNatural_eq_ok_iff {node : Node} {n : Nat} {expected : Text} :
    node.toNatural 0 maxMilliseconds expected = .ok n ↔ Entry.Milliseconds n node := by
  constructor
  · intro h
    cases node with
    | number numeral =>
      rw [Node.toNatural, Except.bind_eq_ok_iff] at h
      obtain ⟨found, hvalue, h⟩ := h
      cases found with
      | float x => cases h
      | integer i =>
        simp only at h
        split at h
        · next hbounds =>
          obtain ⟨n', rfl⟩ := Int.eq_ofNat_of_zero_le hbounds.1
          obtain ⟨whole, rfl, hwhole, hlt⟩ := Numeral.value_eq_integer_iff.mp hvalue
          cases h
          exact .mk hwhole hlt
        · cases h
    | _ => cases h
  · rintro ⟨rfl, hn⟩
    exact toNatural_number (Numeral.value_of_lt hn) hn expected

theorem toText?_eq_ok_iff {node : Node} {directory : Option Text} {expected : Text} :
    node.toText? expected = .ok directory ↔ Entry.WrittenAs (.outputDir directory) node := by
  constructor
  · intro h
    cases node with
    | null =>
      cases h
      exact .noDirectory
    | string raw =>
      obtain ⟨t, htext, rfl⟩ := Except.map_eq_ok_iff.mp h
      exact .directory htext
    | _ => cases h
  · intro h
    cases h with
    | noDirectory => rfl
    | directory htext => exact Except.map_eq_ok_iff.mpr ⟨_, htext, rfl⟩

/-- A value is read iff it is of the kind of its setting. -/
theorem put_eq_ok_iff {g g' : Given} {field : Field} {value : Node} :
    g.put field value = .ok g' ↔ ∃ e : Entry, e.field = field ∧ e.WrittenAs value ∧ g' = g.set e := by
  constructor
  · intro h
    cases field with
    | forcePrint =>
      obtain ⟨b, hvalue, rfl⟩ := Except.map_eq_ok_iff.mp h
      obtain rfl := toBool_eq_ok_iff.mp hvalue
      exact ⟨.forcePrint b, rfl, .forcePrint b, rfl⟩
    | printGrace =>
      obtain ⟨n, hvalue, rfl⟩ := Except.map_eq_ok_iff.mp h
      exact ⟨.printGrace n, rfl, .printGrace (toNatural_eq_ok_iff.mp hvalue), rfl⟩
    | printWait =>
      obtain ⟨n, hvalue, rfl⟩ := Except.map_eq_ok_iff.mp h
      exact ⟨.printWait n, rfl, .printWait (toNatural_eq_ok_iff.mp hvalue), rfl⟩
    | outputDir =>
      obtain ⟨directory, hvalue, rfl⟩ := Except.map_eq_ok_iff.mp h
      exact ⟨.outputDir directory, rfl, toText?_eq_ok_iff.mp hvalue, rfl⟩
  · rintro ⟨e, rfl, hvalue, rfl⟩
    cases hvalue with
    | forcePrint b => rfl
    | printGrace h | printWait h =>
      exact Except.map_eq_ok_iff.mpr ⟨_, toNatural_eq_ok_iff.mpr h, rfl⟩
    | noDirectory => rfl
    | directory h =>
      exact Except.map_eq_ok_iff.mpr ⟨_, toText?_eq_ok_iff.mpr (.directory h), rfl⟩

end Given

section

variable {g g' : Given} {key : RawString} {value : Node} {more : List (RawString × Node)}

/-- A member is read in one of two ways: it gives a setting that was not given yet, or it has another
name and is passed over. -/
theorem ofMembers_cons_eq_ok_iff :
    ofMembers g ((key, value) :: more) = .ok g' ↔
      (∃ e : Entry, key.text = .ok e.field.name ∧ g.has e.field = false ∧ e.WrittenAs value ∧
        ofMembers (g.set e) more = .ok g') ∨
      ∃ name, key.text = .ok name ∧ (∀ field : Field, name ≠ field.name) ∧ value.skip = .ok () ∧
        ofMembers g more = .ok g' := by
  constructor
  · intro h
    rw [ofMembers] at h
    obtain ⟨name, hkey, h⟩ := Except.bind_eq_ok_iff.mp h
    obtain ⟨_, hnew, h⟩ := Except.bind_eq_ok_iff.mp h
    cases hfield : Field.ofName? name with
    | some field =>
      simp only [hfield] at h
      obtain ⟨g₁, hput, hmore⟩ := Except.bind_eq_ok_iff.mp h
      obtain ⟨e, rfl, hvalue, rfl⟩ := Given.put_eq_ok_iff.mp hput
      obtain rfl := Field.ofName?_eq_some_iff.mp hfield
      refine .inl ⟨e, hkey, ?_, hvalue, hmore⟩
      by_contra hhas
      simp [Given.checkNew, hhas] at hnew
    | none =>
      simp only [hfield] at h
      obtain ⟨_, hskip, hmore⟩ := Except.bind_eq_ok_iff.mp h
      exact .inr ⟨name, hkey, Field.ofName?_eq_none_iff.mp hfield, hskip, hmore⟩
  · rintro (⟨e, hkey, hnew, hvalue, hmore⟩ | ⟨name, hkey, hname, hskip, hmore⟩)
    · have hput : g.put e.field value = .ok (g.set e) :=
        Given.put_eq_ok_iff.mpr ⟨e, rfl, hvalue, rfl⟩
      rw [ofMembers_cons e.field hkey hnew, hput, Except.ok_bind, hmore]
    · have hother := Field.ofName?_eq_none_iff.mpr hname
      simp [ofMembers, hkey, Given.checkNew, hother, hskip, hmore]

end

theorem ofMembers_eq_ok_iff {members : List (RawString × Node)}
    (hskip : ∀ member ∈ members, member.2.skip = .ok ()) {g g' : Given} :
    ofMembers g members = .ok g' ↔
      ∃ entries, Lists members entries ∧ (entries.map Entry.field).Nodup ∧
        (∀ e ∈ entries, g.has e.field = false) ∧ g' = entries.foldl Given.set g := by
  induction members generalizing g with
  | nil =>
    constructor
    · intro h
      cases h
      exact ⟨[], .nil, List.nodup_nil, by simp, rfl⟩
    · rintro ⟨entries, hlists, -, -, rfl⟩
      cases hlists
      rfl
  | cons member more ih =>
    obtain ⟨key, value⟩ := member
    obtain ⟨hvalueSkip, hmoreSkip⟩ := List.forall_mem_cons.mp hskip
    simp only [ofMembers_cons_eq_ok_iff, ih hmoreSkip]
    constructor
    · rintro (⟨e, hkey, hnew, hvalue, entries, hlists, hnodup, hrest, rfl⟩ |
        ⟨name, hkey, hname, -, entries, hlists, hnodup, hrest, rfl⟩)
      · have hfresh (e') (he' : e' ∈ entries) := Given.has_set_eq_false_iff.mp (hrest e' he')
        refine ⟨e :: entries, .known hkey hvalue hlists, ?_, ?_, rfl⟩
        · refine List.nodup_cons.mpr ⟨fun hmem => ?_, hnodup⟩
          obtain ⟨e', he', hsame⟩ := List.mem_map.mp hmem
          exact (hfresh e' he').1 hsame.symm
        · exact List.forall_mem_cons.mpr ⟨hnew, fun e' he' => (hfresh e' he').2⟩
      · exact ⟨entries, .other hkey hname hlists, hnodup, hrest, rfl⟩
    · rintro ⟨entries, hlists, hnodup, hrest, rfl⟩
      cases hlists with
      | known hkey hvalue hmore =>
        obtain ⟨hfresh, hnodup⟩ := List.nodup_cons.mp hnodup
        obtain ⟨hnew, hrest⟩ := List.forall_mem_cons.mp hrest
        refine .inl ⟨_, hkey, hnew, hvalue, _, hmore, hnodup, fun e' he' => ?_, rfl⟩
        refine Given.has_set_eq_false_iff.mpr ⟨fun hsame => hfresh ?_, hrest e' he'⟩
        exact List.mem_map.mpr ⟨e', he', hsame.symm⟩
      | other hkey hname hmore => exact .inr ⟨_, hkey, hname, hvalueSkip, _, hmore, hnodup, hrest, rfl⟩

theorem ofMembers_start_eq_ok_iff {members : List (RawString × Node)}
    (hskip : ∀ member ∈ members, member.2.skip = .ok ()) {g : Given} :
    ofMembers {} members = .ok g ↔ ∃ entries, Lists members entries ∧
      (entries.map Entry.field).Nodup ∧ g = entries.foldl Given.set {} := by
  have hnothing (field : Field) : ({} : Given).has field = false := by cases field <;> rfl
  simp only [ofMembers_eq_ok_iff hskip, hnothing, implies_true, true_and]

theorem Given.ofNode_object (members : List (RawString × Node)) :
    Given.ofNode (.object members .closed) = ofMembers {} members := by
  rw [Given.ofNode]
  cases ofMembers {} members <;> rfl

end PageQuery.Settings
