import PageQuery.Text.Basic
import PageQuery.Text.CaseTables

/-!
Lower-casing. Each character has its own lower-case form, but for the capital sigma, whose form
depends on whether it ends a word.
-/
namespace PageQuery.Text

def isCased (c : Char) : Bool := inIntervals casedIntervals c.toNat

def isCaseIgnorable (c : Char) : Bool := inIntervals caseIgnorableIntervals c.toNat

/-- The lower-case form of a character that has one of a single character, or the character. -/
def lowerChar (c : Char) : Char :=
  match lowerRanges.find? (·.covers c.toNat) with
  | some r => Char.ofNat (c.toNat + r.shift).toNat
  | none => c

/-- Whether the first character that is not ignorable is cased. -/
def startsCased (t : Text) : Bool :=
  match t.dropWhile isCaseIgnorable with
  | c :: _ => isCased c
  | [] => false

/-- The lower-case form of a character between its neighbours; `before` is read backwards. A
capital sigma with a cased character before and none after it is a final one. -/
def lowerAt (before : Text) (c : Char) (after : Text) : Text :=
  if c = 'Σ' then [if startsCased before && !startsCased after then 'ς' else 'σ']
  else if c = 'İ' then ['i', '\u0307']
  else [lowerChar c]

/-- Lower-cases a text that follows the characters `before`, which are read backwards. -/
def lowerFrom (before : Text) : Text → Text
  | [] => []
  | c :: rest => lowerAt before c rest ++ lowerFrom (c :: before) rest

def lower (t : Text) : Text := lowerFrom [] t

end PageQuery.Text
