import PageQuery.Text.Basic

/-!
Query expressions: a text to be found, or alternatives, or requirements. An expression has a
written form and decides which texts it holds of.
-/
namespace PageQuery.Query

/-- What a page has to show: a text, one of several expressions, or all of them. -/
inductive Expression where
  | literal (needle : Text)
  | any (parts : List Expression)
  | all (parts : List Expression)
deriving Repr, Inhabited

namespace Expression

def anyOperator : Char := '|'

def allOperator : Char := '&'

def spaced (operator : Char) : Text := [' ', operator, ' ']

mutual

/-- Whether the expression holds of a text. The text is compared as it stands. -/
def holds (text : Text) : Expression → Bool
  | literal needle => occursIn needle text
  | any parts => holdsOfSome text parts
  | all parts => holdsOfEach text parts

def holdsOfSome (text : Text) : List Expression → Bool
  | [] => false
  | part :: more => holds text part || holdsOfSome text more

def holdsOfEach (text : Text) : List Expression → Bool
  | [] => true
  | part :: more => holds text part && holdsOfEach text more

end

mutual

def render : Expression → Text
  | literal needle => needle
  | any parts => Text.joined (spaced anyOperator) (renderEach parts)
  | all parts => Text.joined (spaced allOperator) (renderEach parts)

def renderEach : List Expression → List Text
  | [] => []
  | part :: more => render part :: renderEach more

end

theorem holdsOfSome_eq (text : Text) (parts : List Expression) :
    holdsOfSome text parts = parts.any (holds text) := by
  induction parts with
  | nil => rfl
  | cons part more ih => simp [holdsOfSome, ih]

theorem holdsOfEach_eq (text : Text) (parts : List Expression) :
    holdsOfEach text parts = parts.all (holds text) := by
  induction parts with
  | nil => rfl
  | cons part more ih => simp [holdsOfEach, ih]

theorem renderEach_eq (parts : List Expression) : renderEach parts = parts.map render := by
  induction parts with
  | nil => rfl
  | cons part more ih => simp [renderEach, ih]

@[simp] theorem holds_any (text : Text) (parts : List Expression) :
    (any parts).holds text = parts.any (holds text) := by
  simp [holds, holdsOfSome_eq]

@[simp] theorem holds_all (text : Text) (parts : List Expression) :
    (all parts).holds text = parts.all (holds text) := by
  simp [holds, holdsOfEach_eq]

end Expression
end PageQuery.Query
