import PageQuery.Json.Node

/-!
Values read from a tree: passed over, kept, or asked for by kind. What is passed over only has to be
written correctly; what is kept also needs numbers in range, strings that are texts, and a bounded
depth of nesting.
-/
namespace PageQuery.Json

inductive Value where
  | null
  | bool (b : Bool)
  | number (n : Number)
  | string (t : Text)
  | list (items : List Value)
  | object (members : List (Text × Value))
deriving Repr

/-- The number of lists and objects that may be open at once, and one more. -/
def maxLevels : Nat := 128

def enter (levels : Nat) : Except Problem Nat :=
  if levels ≤ 1 then .error .nestedTooDeep else .ok (levels - 1)

theorem enter_of_lt {levels : Nat} (h : 1 < levels) : enter levels = .ok (levels - 1) :=
  if_neg (Nat.not_le.mpr h)

def ListEnd.check : ListEnd → Except Problem Unit
  | closed => .ok ()
  | unfinished => .error .endOfValue
  | endOfText => .error .endOfList
  | badDelimiter => .error .expectedListEnd
  | closedAfterComma => .error .trailingComma

def ListEnd.checkSkipped : ListEnd → Except Problem Unit
  | closedAfterComma => .error .expectedValue
  | other => other.check

/-- What is wrong with the end of a list behind the last item that was asked for. -/
def ListEnd.checkBehind : ListEnd → Except Problem Unit
  | badDelimiter => .error .trailingCharacters
  | other => other.check

/-- What is wrong with the end of an object whose members are kept. A key without its value is
looked at first. -/
def ObjectEnd.check (lookAt : Text → Except Problem Unit) : ObjectEnd → Except Problem Unit
  | closed => .ok ()
  | unfinished => .error .endOfValue
  | endOfText => .error .endOfObject
  | badDelimiter => .error .expectedObjectEnd
  | badKey => .error .keyMustBeString
  | closedAfterComma => .error .trailingComma
  | endOfTextAfterComma => .error .endOfValue
  | brokenKey key => do
    let _ ← key.text
    throw .endOfString
  | noColon key atEnd => do
    lookAt (← key.text)
    throw (if atEnd then .endOfObject else .expectedColon)

def ObjectEnd.checkSkipped : ObjectEnd → Except Problem Unit
  | closedAfterComma => .error .keyMustBeString
  | endOfTextAfterComma => .error .endOfObject
  | brokenKey key => do
    key.skip
    throw .endOfString
  | noColon _ atEnd => .error (if atEnd then .endOfObject else .expectedColon)
  | other => other.check fun _ => .ok ()

def lacksDigit (atEnd : Bool) : Problem := if atEnd then .endOfValue else .invalidNumber

namespace Node

mutual

def skip : Node → Except Problem Unit
  | null | bool _ | number _ => .ok ()
  | badNumber _ => .error .invalidNumber
  | string s => s.skip
  | list items ending => do
    skipItems items
    ending.checkSkipped
  | object members ending => do
    skipMembers members
    ending.checkSkipped
  | broken problem => .error problem

def skipItems : List Node → Except Problem Unit
  | [] => .ok ()
  | item :: more => do
    skip item
    skipItems more

def skipMembers : List (RawString × Node) → Except Problem Unit
  | [] => .ok ()
  | (key, value) :: more => do
    key.skip
    skip value
    skipMembers more

end

mutual

/-- Keeps a value, with so many levels of nesting left. -/
def keep (levels : Nat) : Node → Except Problem Value
  | null => .ok .null
  | bool b => .ok (.bool b)
  | number n => n.value.map .number
  | badNumber atEnd => .error (lacksDigit atEnd)
  | string s => s.text.map .string
  | list items ending => do
    let inner ← enter levels
    let values ← keepItems inner items
    ending.check
    pure (.list values)
  | object members ending => do
    let inner ← enter levels
    let values ← keepMembers inner members
    ending.check fun _ => .ok ()
    pure (.object values)
  | broken problem => .error problem

def keepItems (levels : Nat) : List Node → Except Problem (List Value)
  | [] => .ok []
  | item :: more => do
    let value ← keep levels item
    let values ← keepItems levels more
    pure (value :: values)

def keepMembers (levels : Nat) : List (RawString × Node) → Except Problem (List (Text × Value))
  | [] => .ok []
  | (key, value) :: more => do
    let name ← key.text
    let kept ← keep levels value
    let members ← keepMembers levels more
    pure ((name, kept) :: members)

end

/-- The problem of a value that is not of the kind expected: its own, if it is not written
correctly. -/
def mismatch (expected : Text) : Node → Problem
  | null => .invalidType .null expected
  | bool b => .invalidType (.bool b) expected
  | number n => match n.value with
    | .ok v => .invalidType v.found expected
    | .error problem => problem
  | badNumber atEnd => lacksDigit atEnd
  | string s => match s.text with
    | .ok t => .invalidType (.string t) expected
    | .error problem => problem
  | list .. => .invalidType .list expected
  | object .. => .invalidType .object expected
  | broken problem => problem

def toBool (n : Node) : Except Problem Bool :=
  match n with
  | bool b => .ok b
  | other => .error (other.mismatch "a boolean")

/-- An integer within bounds; the bounds have a name. -/
def toNatural (least greatest : Nat) (expected : Text) (n : Node) : Except Problem Nat :=
  match n with
  | number numeral => do
    match ← numeral.value with
    | .integer i =>
      if (least : Int) ≤ i ∧ i ≤ greatest then pure i.toNat
      else throw (.invalidValue (.integer i) expected)
    | .float x => throw (.invalidType (.float x) expected)
  | other => .error (other.mismatch expected)

def toText (expected : Text) (n : Node) : Except Problem Text :=
  match n with
  | string s => s.text
  | other => .error (other.mismatch expected)

/-- A string or nothing. -/
def toText? (expected : Text) (n : Node) : Except Problem (Option Text) :=
  match n with
  | null => .ok none
  | other => (other.toText expected).map some

end Node

def Value.found : Value → Found
  | null => .null
  | bool b => .bool b
  | number n => n.found
  | string t => .string t
  | list _ => .list
  | object _ => .object

/-- Checks what follows the value of a text: only white space may. -/
def checkRest : Option (List Text.Symbol) → Except Problem Unit
  | some rest => if (skipSpace rest).isEmpty then .ok () else .error .trailingCharacters
  | none => .ok ()

/-- Reads a text that holds one value and nothing else. -/
def read {α : Type} (interpret : Node → Except Problem α) (s : List Text.Symbol) :
    Except Problem α := do
  let (node, rest) := Node.ofSymbols s
  let value ← interpret node
  checkRest rest
  pure value

/-- The symbols of a text that is known to be one. -/
def symbolsOf (t : Text) : List Text.Symbol := t.map .char

@[simp] theorem symbolsOf_nil : symbolsOf [] = [] := rfl

@[simp] theorem symbolsOf_cons (c : Char) (t : Text) :
    symbolsOf (c :: t) = .char c :: symbolsOf t := rfl

@[simp] theorem symbolsOf_append (t u : Text) :
    symbolsOf (t ++ u) = symbolsOf t ++ symbolsOf u := List.map_append

end PageQuery.Json
