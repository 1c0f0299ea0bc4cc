import PageQuery.Pattern.Problem

/-!
Patterns as they are written. Every part knows where it stands, for messages.
-/
namespace PageQuery.Pattern

inductive LetterClass where
  | digit
  | blank
  | word
deriving DecidableEq, Repr

inductive WordEdge where
  /-- A word starts or ends. -/
  | edge
  | noEdge
  | start
  | stop
  /-- No word goes on before the place. -/
  | startHalf
  /-- No word goes on behind the place. -/
  | stopHalf
deriving DecidableEq, Repr

inductive Assertion where
  | lineStart
  | lineEnd
  | textStart
  | textEnd
  | word (kind : WordEdge)
deriving DecidableEq, Repr

inductive AsciiClass where
  | alnum
  | alpha
  | ascii
  | blank
  | cntrl
  | digit
  | graph
  | lower
  | print
  | punct
  | space
  | upper
  | word
  | xdigit
deriving DecidableEq, Repr

/-- How a property of characters is given: by a name alone, or by a name and a value. -/
inductive PropertyName where
  | alone (name : Text)
  | valued (name value : Text)
deriving DecidableEq, Repr

structure Literal where
  span : Span
  char : Char
  /-- Whether it is written as a byte of two hexadecimal digits. -/
  isByte : Bool := false
deriving DecidableEq, Repr

/-- A part that stands for one character or for none. -/
inductive Atom where
  | literal (l : Literal)
  | dot (span : Span)
  | letter (span : Span) (kind : LetterClass) (negated : Bool)
  | property (span : Span) (name : PropertyName) (negated : Bool)
  | assertion (span : Span) (a : Assertion)
deriving DecidableEq, Repr

namespace Atom

def span : Atom → Span
  | literal l => l.span
  | dot span | letter span .. | property span .. | assertion span _ => span

end Atom

inductive SetOperator where
  | intersection
  | difference
  | symmetricDifference
deriving DecidableEq, Repr

inductive SetNode where
  | literal (l : Literal)
  | range (span : Span) (first last : Literal)
  | ascii (span : Span) (kind : AsciiClass) (negated : Bool)
  | letter (span : Span) (kind : LetterClass) (negated : Bool)
  | property (span : Span) (name : PropertyName) (negated : Bool)
  | bracketed (span : Span) (negated : Bool) (content : SetNode)
  | union (span : Span) (items : List SetNode)
  | operation (span : Span) (operator : SetOperator) (left right : SetNode)
deriving Repr

namespace SetNode

def span : SetNode → Span
  | literal l => l.span
  | range span .. | ascii span .. | letter span .. | property span .. | bracketed span ..
  | union span _ | operation span .. => span

/-- The set of some items: one item is a set by itself. The place is where items are read first. -/
def ofItems (place : Mark) : List SetNode → SetNode
  | [] => .union (.point place) []
  | [item] => item
  | item :: more =>
    .union ⟨item.span.start, ((item :: more).getLast?.getD item).span.stop⟩ (item :: more)

end SetNode

inductive Flag where
  | ignoreCase
  | manyLines
  | dotAll
  | swapGreed
  | unicode
  | pairedReturns
  | freeSpacing
deriving DecidableEq, Repr

/-- A flag, or the hyphen before flags that are switched off. -/
structure FlagItem where
  span : Span
  flag : Option Flag
deriving DecidableEq, Repr

/-- The way in which flags switch one: its first mention counts. -/
def switched? (flag : Flag) : List FlagItem → Option Bool
  | [] => none
  | ⟨_, none⟩ :: more => if more.any (·.flag = some flag) then some false else none
  | ⟨_, some f⟩ :: more => if f = flag then some true else switched? flag more

inductive Node where
  | empty (span : Span)
  | flags (span : Span) (items : List FlagItem)
  | atom (a : Atom)
  | set (span : Span) (negated : Bool) (content : SetNode)
  /-- A part between a least and a greatest number of times. -/
  | repetition (span : Span) (least : Nat) (most : Option Nat) (part : Node)
  | group (span : Span) (items : List FlagItem) (part : Node)
  | sequence (span : Span) (parts : List Node)
  | choice (span : Span) (parts : List Node)
deriving Repr

namespace Node

def span : Node → Span
  | empty span | flags span _ | set span .. | repetition span .. | group span .. | sequence span _
  | choice span _ => span
  | atom a => a.span

/-- The pattern of some parts one after another: one part is a pattern by itself. -/
def ofParts (span : Span) : List Node → Node
  | [] => .empty span
  | [part] => part
  | parts => .sequence span parts

def isRepeatable : Node → Bool
  | empty _ | flags .. => false
  | _ => true

end Node

def tooDeep (span : Span) : Problem := ⟨.nestedTooDeep, span⟩

mutual

def SetNode.check (depth : Nat) : SetNode → Except Problem Unit
  | .bracketed span _ content =>
    if maxNesting ≤ depth then .error (tooDeep span) else content.check (depth + 1)
  | .union span (item :: more) =>
    if maxNesting ≤ depth then .error (tooDeep span) else do
      item.check (depth + 1)
      checkItems (depth + 1) more
  | .operation span _ left right =>
    if maxNesting ≤ depth then .error (tooDeep span) else do
      left.check (depth + 1)
      right.check (depth + 1)
  | _ => .ok ()

def SetNode.checkItems (depth : Nat) : List SetNode → Except Problem Unit
  | [] => .ok ()
  | item :: more => do
    item.check depth
    checkItems depth more

end

mutual

/-- Looks for a part that is nested too deep, the outermost one first. -/
def Node.check (depth : Nat) : Node → Except Problem Unit
  | .set span _ content =>
    if maxNesting ≤ depth then .error (tooDeep span) else content.check (depth + 1)
  | .repetition span _ _ part | .group span _ part =>
    if maxNesting ≤ depth then .error (tooDeep span) else part.check (depth + 1)
  | .sequence span parts | .choice span parts =>
    if maxNesting ≤ depth then .error (tooDeep span) else checkParts (depth + 1) parts
  | .empty _ | .flags .. | .atom _ => .ok ()

def Node.checkParts (depth : Nat) : List Node → Except Problem Unit
  | [] => .ok ()
  | part :: more => do
    part.check depth
    checkParts depth more

end

end PageQuery.Pattern
