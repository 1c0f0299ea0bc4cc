import PageQuery.Pattern.Matcher

/-!
The matcher that a pattern stands for. Flags change what the parts behind them mean, up to the end
of their group. Without Unicode only ASCII characters may be asked for in sets, and nothing may stand
for a part of a character.
-/
namespace PageQuery.Pattern

structure Mode where
  ignoreCase : Bool := false
  manyLines : Bool := false
  dotAll : Bool := false
  pairedReturns : Bool := false
  unicode : Bool := true
deriving DecidableEq, Repr

def Mode.switch (m : Mode) (items : List FlagItem) : Mode where
  ignoreCase := (switched? .ignoreCase items).getD m.ignoreCase
  manyLines := (switched? .manyLines items).getD m.manyLines
  dotAll := (switched? .dotAll items).getD m.dotAll
  pairedReturns := (switched? .pairedReturns items).getD m.pairedReturns
  unicode := (switched? .unicode items).getD m.unicode

def AsciiClass.row : AsciiClass → String
  | alnum => "30-39 41-5A 61-7A"
  | alpha => "41-5A 61-7A"
  | ascii => "0-7F"
  | blank => "9 20"
  | cntrl => "0-1F 7F"
  | digit => "30-39"
  | graph => "21-7E"
  | lower => "61-7A"
  | print => "20-7E"
  | punct => "21-2F 3A-40 5B-60 7B-7E"
  | space => "9-D 20"
  | upper => "41-5A"
  | word => "30-39 41-5A 5F 61-7A"
  | xdigit => "30-39 41-46 61-66"

def AsciiClass.chars (k : AsciiClass) : CharSet := .ofRows [k.row]

def LetterClass.chars (unicode : Bool) : LetterClass → CharSet
  | digit => if unicode then Text.Property.digits else AsciiClass.digit.chars
  | blank => if unicode then Text.Property.blanks else AsciiClass.space.chars
  | word => if unicode then Text.Property.wordChars else AsciiClass.word.chars

/-- A set of ASCII characters with the other case of every letter in it. -/
def foldedAscii (s : CharSet) : CharSet :=
  let shift := 'a'.toNat - 'A'.toNat
  let capitals := s.inter (.range 'A' 'Z')
  let small := s.inter (.range 'a' 'z')
  .unions [s, ⟨capitals.intervals.map fun (first, last) => (first + shift, last + shift)⟩,
    ⟨small.intervals.map fun (first, last) => (first - shift, last - shift)⟩]

namespace Mode

/-- The set with the other cases of its characters, where case does not count. -/
def fold (m : Mode) (s : CharSet) : CharSet :=
  if !m.ignoreCase then s
  else if m.unicode then Text.folded s
  else foldedAscii s

/-- The set or its complement. Without Unicode a complement has parts of characters in it. -/
def negate (m : Mode) (span : Span) (negated : Bool) (s : CharSet) : Except Problem CharSet :=
  if !negated then .ok s
  else if m.unicode then .ok s.compl
  else .error ⟨.notText, span⟩

def letterSet (m : Mode) (span : Span) (kind : LetterClass) (negated : Bool) :
    Except Problem CharSet :=
  m.negate span negated (kind.chars m.unicode)

def propertySet (m : Mode) (span : Span) (name : PropertyName) (negated : Bool) :
    Except Problem CharSet :=
  if !m.unicode then .error ⟨.unicodeOff, span⟩
  else
    let found := match name with
      | .alone name => Text.Property.named name
      | .valued name value => Text.Property.withValue name value
    match found with
    | .ok s => m.negate span negated (m.fold s)
    | .error .unknownProperty => .error ⟨.propertyUnknown, span⟩
    | .error .unknownValue => .error ⟨.valueUnknown, span⟩

/-- Whether a byte is written that is no character by itself. -/
def isStrayByte (m : Mode) (l : Literal) : Bool :=
  !m.unicode && l.isByte && 0x7F < l.char.toNat

def setChar (m : Mode) (l : Literal) : Except Problem Char :=
  if m.isStrayByte l then .error ⟨.notText, l.span⟩
  else if !m.unicode ∧ 0x7F < l.char.toNat then .error ⟨.unicodeOff, l.span⟩
  else .ok l.char

end Mode

def SetOperator.apply : SetOperator → CharSet → CharSet → CharSet
  | intersection, s, t => s.inter t
  | difference, s, t => s.diff t
  | symmetricDifference, s, t => s.symmDiff t

mutual

def SetNode.chars (m : Mode) : SetNode → Except Problem CharSet
  | .literal l => (m.setChar l).map CharSet.single
  | .range _ first last => do pure (.range (← m.setChar first) (← m.setChar last))
  | .ascii span kind negated => m.negate span negated (m.fold kind.chars)
  | .letter span kind negated => m.letterSet span kind negated
  | .property span name negated => m.propertySet span name negated
  | .bracketed span negated content => do m.negate span negated (m.fold (← content.chars m))
  | .union _ items => charsOfItems m items
  | .operation _ operator left right => do
    let left ← left.chars m
    let right ← right.chars m
    pure (operator.apply (m.fold left) (m.fold right)).normal

def SetNode.charsOfItems (m : Mode) : List SetNode → Except Problem CharSet
  | [] => .ok .empty
  | item :: more => do pure ((← item.chars m).union (← charsOfItems m more))

end

def setMatcher (s : CharSet) : Matcher := .chars s.normal

namespace Mode

def look (m : Mode) : Assertion → Look
  | .lineStart => if !m.manyLines then .textStart else if m.pairedReturns then .pairedStart
    else .lineStart
  | .lineEnd => if !m.manyLines then .textEnd else if m.pairedReturns then .pairedEnd
    else .lineEnd
  | .textStart => .textStart
  | .textEnd => .textEnd
  | .word kind => .word kind m.unicode

def dotSet (m : Mode) : CharSet :=
  if m.dotAll then .all
  else CharSet.compl (.ofText (if m.pairedReturns then "\r\n" else "\n"))

def literalSet (m : Mode) (c : Char) : CharSet :=
  if m.unicode || c.toNat < 0x80 then m.fold (.single c) else .single c

def atom (m : Mode) : Atom → Except Problem Matcher
  | .literal l =>
    if m.isStrayByte l then .error ⟨.notText, l.span⟩
    else .ok (setMatcher (m.literalSet l.char))
  | .dot span => if m.unicode then .ok (setMatcher m.dotSet) else .error ⟨.notText, span⟩
  | .letter span kind negated => (m.letterSet span kind negated).map setMatcher
  | .property span name negated => (m.propertySet span name negated).map setMatcher
  | .assertion _ a => .ok (.look (m.look a))

end Mode

/-- The matcher of a repetition: what is empty need not be repeated. -/
def Matcher.repetition (least : Nat) (most : Option Nat) (part : Matcher) : Matcher :=
  if part.isEmptyOnly then .repeated (min least 1) (some ((most.map (min · 1)).getD 1)) part
  else .repeated least most part

mutual

/-- The matcher of a pattern, and the mode behind it. -/
def Node.matcher (m : Mode) : Node → Except Problem (Matcher × Mode)
  | .empty _ => .ok (.empty, m)
  | .flags _ items => .ok (.empty, m.switch items)
  | .atom a => do pure (← m.atom a, m)
  | .set span negated content => do
    pure (setMatcher (← m.negate span negated (m.fold (← content.chars m))), m)
  | .repetition _ least most part => do
    let (part, m) ← part.matcher m
    pure (.repetition least most part, m)
  | .group _ items part => do
    let (part, _) ← part.matcher (m.switch items)
    pure (part, m)
  | .sequence _ parts => do
    let (parts, m) ← matchers m parts
    pure (.ofSequence parts, m)
  | .choice _ parts => do
    let (parts, m) ← matchers m parts
    pure (.ofChoice parts, m)

def Node.matchers (m : Mode) : List Node → Except Problem (List Matcher × Mode)
  | [] => .ok ([], m)
  | part :: more => do
    let (first, m) ← part.matcher m
    let (rest, m) ← matchers m more
    pure (first :: rest, m)

end

end PageQuery.Pattern
