import PageQuery.Proofs.Except
import PageQuery.Settings

/-!
What a text of settings gives, before defaults stand in for what it does not give.
-/
namespace PageQuery.Settings

open Json (Node Problem RawString)

@[simp] theorem Field.ofName?_name (field : Field) : Field.ofName? field.name = some field := by
  cases field <;> decide +kernel

theorem Field.ofName?_eq_some_iff {name : Text} {field : Field} :
    Field.ofName? name = some field ↔ name = field.name := by
  constructor
  · intro h
    unfold Field.ofName? at h
    have hname := List.find?_some h
    exact (of_decide_eq_true hname).symm
  · rintro rfl
    exact Field.ofName?_name field

theorem Field.ofName?_eq_none_iff {name : Text} :
    Field.ofName? name = none ↔ ∀ field : Field, name ≠ field.name := by
  simp only [Option.eq_none_iff_forall_ne_some, ne_eq, Field.ofName?_eq_some_iff]

/-- What a tree gives. -/
def Given.ofNode : Node → Except Problem Given
  | .object members ending => do
    let g ← ofMembers {} members
    ending.check g.checkNew
    pure g
  | .list items ending => ofItems {} Field.all items ending
  | other => .error (other.mismatch "struct SiftConfig")

/-- What a text gives. -/
def Given.parse (t : Text) : Except Problem Given := Json.read Given.ofNode (Json.symbolsOf t)

theorem ofNode_eq_map (n : Node) : ofNode n = (Given.ofNode n).map Given.toSettings := by
  cases n with
  | object members ending =>
    rw [ofNode, Given.ofNode]
    cases ofMembers {} members with
    | error problem => rfl
    | ok g => cases hend : ending.check g.checkNew <;> simp [hend, Except.map]
  | list items ending =>
    rw [ofNode, Given.ofNode]
    cases ofItems {} Field.all items ending <;> rfl
  | _ => rfl

/-- Settings are what the text gives, and the defaults. -/
theorem parse_eq_map (t : Text) : Settings.parse t = (Given.parse t).map Given.toSettings := by
  rw [Settings.parse, Given.parse, Json.read, Json.read]
  rcases Node.ofSymbols (Json.symbolsOf t) with ⟨node, rest⟩
  simp only [ofNode_eq_map]
  cases Given.ofNode node with
  | error problem => rfl
  | ok g => cases Json.checkRest rest <;> rfl

section

variable {g : Given} {key : RawString} {value : Node} {more : List (RawString × Node)}

/-- A setting that was not given yet is read, whatever follows. -/
theorem ofMembers_cons (field : Field) (hkey : key.text = .ok field.name)
    (hnew : g.has field = false) :
    ofMembers g ((key, value) :: more) = (do ofMembers (← g.put field value) more) := by
  have hcheck : g.checkNew field.name = .ok () := by
    simp [Given.checkNew, hnew]
  rw [ofMembers, hkey, Except.ok_bind, hcheck, Except.ok_bind]
  simp only [Field.ofName?_name]

end

theorem toNatural_number {numeral : Json.Numeral} {n : Nat}
    (hvalue : numeral.value = .ok (.integer n)) (hn : n < Word.bound64) (expected : Text) :
    Node.toNatural 0 maxMilliseconds expected (.number numeral) = .ok n := by
  have hbound : (0 : Int) ≤ n ∧ (n : Int) ≤ maxMilliseconds := by
    rw [maxMilliseconds]
    omega
  rw [Node.toNatural, hvalue]
  simp [hbound]

end PageQuery.Settings
