import PageQuery.Pattern.Reader
import PageQuery.Text.CharSet

/-!
What a backslash and the characters behind it stand for: a character, a class of characters, a
property, or a question about a place.
-/
namespace PageQuery.Pattern

def meaningful : List Char := "\\.+*?()|[]\x7b\x7d^$#&-~".toList

/-- Whether a backslash takes the meaning from a character: not from letters and digits, nor from
angle brackets, which have one behind a backslash only. -/
def isEscapable (c : Char) : Bool :=
  c ∈ meaningful || (c.toNat < 0x80 && !c.isAlphanum && c ≠ '<' && c ≠ '>')

def namedChars : List (Char × Char) := [
  ('a', '\x07'), ('f', '\x0c'), ('t', '\t'), ('n', '\n'), ('r', '\r'), ('v', '\x0b')]

def namedAssertions : List (Char × Assertion) := [
  ('A', .textStart), ('z', .textEnd), ('b', .word .edge), ('B', .word .noEdge),
  ('<', .word .start), ('>', .word .stop)]

def edgeNames : List (String × WordEdge) := [
  ("start", .start), ("end", .stop), ("start-half", .startHalf), ("end-half", .stopHalf)]

/-- The classes that letters behind a backslash stand for; capital letters stand for the rest. -/
def letterClasses : List (Char × LetterClass × Bool) := [
  ('d', .digit, false), ('s', .blank, false), ('w', .word, false),
  ('D', .digit, true), ('S', .blank, true), ('W', .word, true)]

def hexLengths : List (Char × Nat) := [('x', 2), ('u', 4), ('U', 8)]

def isHexDigit (c : Char) : Bool :=
  c.isDigit || ('a' ≤ c && c ≤ 'f') || ('A' ≤ c && c ≤ 'F')

def hexValue (digits : Text) : Nat := CharSet.hexNumber (digits.map Char.toUpper)

def hexChar? (digits : Text) : Option Char :=
  let n := hexValue digits
  if n.isValidChar then some (Char.ofNat n) else none

namespace Parse

def hexDigits : Nat → Parse Text
  | 0 => pure []
  | n + 1 => do
    match ← peek? with
    | none => fail .escapeUnfinished (.point (← mark))
    | some c =>
      if !isHexDigit c then fail .hexDigit (← spanOfNext)
      bumpSpace
      pure (c :: (← hexDigits n))

def bracedDigits (brace : Mark) : Nat → Parse Text
  | 0 => pure []
  | fuel + 1 => do
    match ← peek? with
    | none => fail .escapeUnfinished (← spanFrom brace)
    | some c =>
      if c = '\x7d' then pure []
      else
        if !isHexDigit c then fail .hexDigit (← spanOfNext)
        bumpSpace
        pure (c :: (← bracedDigits brace fuel))

def bracedNumber (start : Mark) : Parse Literal := do
  let brace ← mark
  let inside := (← spanOfNext).stop
  bumpSpace
  let digits ← bracedDigits brace (← steps)
  let last ← mark
  bumpSpace
  if digits = [] then fail .hexEmpty (← spanFrom brace)
  match hexChar? digits with
  | some c => pure { span := ← spanFrom start, char := c }
  | none => fail .hexNoCharacter ⟨inside, last⟩

def numbered (start : Mark) (length : Nat) : Parse Literal := do
  match ← peek? with
  | none => fail .escapeUnfinished (.point (← mark))
  | some '\x7b' => bracedNumber start
  | some _ =>
    let first ← mark
    let digits ← hexDigits length
    match hexChar? digits with
    | some c => pure { span := ← spanFrom start, char := c, isByte := length = 2 }
    | none => fail .hexNoCharacter (← spanFrom first)

/-- Cuts the text between braces into a name and a value, if it has both. -/
def propertyName (t : Text) : PropertyName :=
  let differs : Text := "!="
  let rec atDiffers (before : Text) : Text → Option (Text × Text)
    | [] => none
    | c :: rest =>
      if differs.isPrefixOf (c :: rest) then some (before.reverse, rest.drop 1)
      else atDiffers (c :: before) rest
  match (atDiffers [] t).or ((cutAt? ':' t).or (cutAt? '=' t)) with
  | some (name, value) => .valued name value
  | none => .alone t

def property (start : Mark) (negated : Bool) : Parse Atom := do
  match ← peek? with
  | none => fail .escapeUnfinished (.point (← mark))
  | some '\x7b' =>
    bumpSpace
    let name ← takeWhile (· ≠ '\x7d')
    if ← atEnd then fail .escapeUnfinished (.point (← mark))
    bump
    pure (.property (← spanFrom start) (propertyName name) negated)
  | some '\\' => fail .propertyInvalid (← spanOfNext)
  | some c =>
    bumpSpace
    pure (.property (← spanFrom start) (.alone [c]) negated)

def isEdgeLetter (c : Char) : Bool := c.isAlpha || c = '-'

/-- Reads the word between braces that tells an edge of a word more exactly. Where no such word can
stand, nothing is read. -/
def edgeName (start : Mark) : Parse (Option WordEdge) := do
  let before ← get
  let brace ← mark
  bumpSpace
  match ← peek? with
  | none => fail .boundaryOrCount (← spanFrom start)
  | some c =>
    if !isEdgeLetter c then
      set before
      pure none
    else
      let first ← mark
      let name ← takeWhile isEdgeLetter
      if (← peek?) ≠ some '\x7d' then fail .boundaryUnclosed (← spanFrom brace)
      let last ← mark
      bump
      match edgeNames.find? fun (known, _) => known.toList = name with
      | some (_, kind) => pure (some kind)
      | none => fail .boundaryUnknown ⟨first, last⟩

def shortEscape (start : Mark) (c : Char) : Parse Atom := do
  bump
  let span ← spanFrom start
  if isEscapable c then pure (.literal { span, char := c })
  else match namedChars.lookup c, namedAssertions.lookup c with
    | some char, _ => pure (.literal { span, char })
    | none, some (.word .edge) =>
      if (← peek?) = some '\x7b' then
        match ← edgeName start with
        | some kind => pure (.assertion (← spanFrom start) (.word kind))
        | none => pure (.assertion span (.word .edge))
      else pure (.assertion span (.word .edge))
    | none, some assertion => pure (.assertion span assertion)
    | none, none => fail .escapeUnknown span

def escape : Parse Atom := do
  let start ← mark
  bump
  match ← peek? with
  | none => fail .escapeUnfinished (← spanFrom start)
  | some c =>
    if c.isDigit then
      fail .backreference ⟨start, (← spanOfNext).stop⟩
    else match hexLengths.lookup c, letterClasses.lookup c with
      | some length, _ =>
        bumpSpace
        pure (.literal (← numbered start length))
      | none, some (kind, negated) =>
        bump
        pure (.letter (← spanFrom start) kind negated)
      | none, none =>
        if c = 'p' ∨ c = 'P' then
          bumpSpace
          property start (c = 'P')
        else shortEscape start c

end Parse
end PageQuery.Pattern
