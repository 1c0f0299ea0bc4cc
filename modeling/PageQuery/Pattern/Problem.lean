import PageQuery.Text.Basic

/-!
What can be wrong with a pattern, where in the pattern, and the message that shows the place.
-/
namespace PageQuery.Pattern

structure Mark where
  line : Nat := 1
  column : Nat := 1
deriving DecidableEq, Repr

namespace Mark

def notAfter (a b : Mark) : Bool := a.line < b.line || (a.line = b.line && a.column ≤ b.column)

def behind (m : Mark) (c : Char) : Mark :=
  if c = '\n' then ⟨m.line + 1, 1⟩ else { m with column := m.column + 1 }

end Mark

structure Span where
  start : Mark
  stop : Mark
deriving DecidableEq, Repr

namespace Span

/-- The part without characters at a place. -/
def point (m : Mark) : Span := ⟨m, m⟩

/-- Whether a part comes first: it starts first, or ends first where they start together. -/
def notAfter (a b : Span) : Bool :=
  if a.start = b.start then a.stop.notAfter b.stop else a.start.notAfter b.start

def isOneLine (s : Span) : Bool := s.start.line = s.stop.line

end Span

def maxNesting : Nat := 250

def maxRoom : Nat := 10485760

inductive Cause where
  | escapeInSet
  | rangeInOrder
  | rangeOfSets
  | unclosedSet
  | decimalTooLarge
  | hexEmpty
  | hexNoCharacter
  | hexDigit
  | escapeUnfinished
  | escapeUnknown
  | flagNegationDangling
  /-- The flag stands a second time; the span shows where it stands first. -/
  | flagTwice (first : Span)
  | flagNegationTwice (first : Span)
  | flagUnfinished
  | flagUnknown
  | nameTwice (first : Span)
  | nameEmpty
  | nameCharacter
  | nameUnclosed
  | groupUnclosed
  | groupUnopened
  | nestedTooDeep
  | countOrder
  | countEmpty
  | countUnclosed
  | nothingRepeated
  | boundaryUnclosed
  | boundaryUnknown
  | boundaryOrCount
  | propertyInvalid
  | backreference
  | lookAround
  | unicodeOff
  | notText
  | propertyUnknown
  | valueUnknown
deriving DecidableEq, Repr

def Cause.message : Cause → Text
  | escapeInSet => "invalid escape sequence found in character class"
  | rangeInOrder => "invalid character class range, the start must be <= the end"
  | rangeOfSets => "invalid range boundary, must be a literal"
  | unclosedSet => "unclosed character class"
  | decimalTooLarge => "decimal literal invalid"
  | hexEmpty => "hexadecimal literal empty"
  | hexNoCharacter => "hexadecimal literal is not a Unicode scalar value"
  | hexDigit => "invalid hexadecimal digit"
  | escapeUnfinished => "incomplete escape sequence, reached end of pattern prematurely"
  | escapeUnknown => "unrecognized escape sequence"
  | flagNegationDangling => "dangling flag negation operator"
  | flagTwice _ => "duplicate flag"
  | flagNegationTwice _ => "flag negation operator repeated"
  | flagUnfinished => "expected flag but got end of regex"
  | flagUnknown => "unrecognized flag"
  | nameTwice _ => "duplicate capture group name"
  | nameEmpty => "empty capture group name"
  | nameCharacter => "invalid capture group character"
  | nameUnclosed => "unclosed capture group name"
  | groupUnclosed => "unclosed group"
  | groupUnopened => "unopened group"
  | nestedTooDeep =>
    "exceed the maximum number of nested parentheses/brackets (" ++ Text.ofNat maxNesting ++ ")"
  | countOrder => "invalid repetition count range, the start must be <= the end"
  | countEmpty => "repetition quantifier expects a valid decimal"
  | countUnclosed => "unclosed counted repetition"
  | nothingRepeated => "repetition operator missing expression"
  | boundaryUnclosed =>
    "special word boundary assertion is either unclosed or contains an invalid character"
  | boundaryUnknown =>
    "unrecognized special word boundary assertion, valid choices are: start, end, start-half or "
      ++ "end-half"
  | boundaryOrCount =>
    "found either the beginning of a special word boundary or a bounded repetition on a \\b with "
      ++ "an opening brace, but no closing brace"
  | propertyInvalid => "invalid Unicode character class"
  | backreference => "backreferences are not supported"
  | lookAround => "look-around, including look-ahead and look-behind, is not supported"
  | unicodeOff => "Unicode not allowed here"
  | notText => "pattern can match invalid UTF-8"
  | propertyUnknown => "Unicode property not found"
  | valueUnknown => "Unicode property value not found"

def Cause.other? : Cause → Option Span
  | flagTwice first | flagNegationTwice first | nameTwice first => some first
  | _ => none

structure Problem where
  cause : Cause
  span : Span
deriving DecidableEq, Repr

namespace Problem

def spans (p : Problem) : List Span :=
  match p.cause.other? with
  | some other => if p.span.notAfter other then [p.span, other] else [other, p.span]
  | none => [p.span]

/-- Marks below the parts of a line, the first one behind `column` characters. -/
def marksBelow (column : Nat) : List Span → Text
  | [] => []
  | s :: more =>
    let gap := s.start.column - 1 - column
    let width := max 1 (s.stop.column - s.start.column)
    List.replicate gap ' ' ++ List.replicate width '^' ++ marksBelow (column + gap + width) more

def showLine (spans : List Span) (margin : Nat → Text) (number : Nat) (line : Text) : Text :=
  let here := spans.filter fun s => s.isOneLine && s.start.line = number
  let marks := if here = [] then []
    else List.replicate (margin number).length ' ' ++ marksBelow 0 here ++ ['\n']
  margin number ++ line ++ '\n' :: marks

/-- What is said about a part that goes over several lines. -/
def describe (s : Span) : Text :=
  "on line " ++ Text.ofNat s.start.line ++ " (column " ++ Text.ofNat s.start.column
    ++ ") through line " ++ Text.ofNat s.stop.line ++ " (column "
    ++ Text.ofNat (s.stop.column - 1) ++ ")"

/-- The margin of a line: its number, if there are several lines. -/
def margin (count number : Nat) : Text :=
  if count ≤ 1 then "    "
  else
    let width := (Text.ofNat count).length
    let digits := Text.ofNat number
    List.replicate (width - digits.length) ' ' ++ digits ++ ": "

def render (pattern : Text) (p : Problem) : Text :=
  let lines := Text.lines pattern
  let count := lines.length + (if pattern.getLast? = some '\n' then 1 else 0)
  let shown := (lines.zipIdx 1).flatMap fun (line, number) =>
    showLine p.spans (margin count) number line
  let divider := List.replicate 79 '~' ++ ['\n']
  let excerpt :=
    if '\n' ∈ pattern then
      let long := p.spans.filter (!·.isOneLine)
      let notes := if long = [] then [] else Text.joined "\n" (long.map describe) ++ ['\n']
      divider ++ shown ++ divider ++ notes
    else shown
  "regex parse error:\n" ++ excerpt ++ "error: " ++ p.cause.message

end Problem
end PageQuery.Pattern
