import PageQuery.Pattern.Node
import PageQuery.Text.Property

/-!
Patterns as they are matched. A matcher is carried out on all places of a text at once: from the
places where it starts it leads to the places where it can end. Whether a text has a part that fits
needs no more than that some place is reached.
-/
namespace PageQuery.Pattern

inductive Look where
  | textStart
  | textEnd
  /-- At the start of the text or behind a line feed. -/
  | lineStart
  /-- At the end of the text or before a line feed. -/
  | lineEnd
  /-- As `lineStart`, but lines end with carriage returns, line feeds or both together. -/
  | pairedStart
  /-- As `lineEnd`, but lines end with carriage returns, line feeds or both together. -/
  | pairedEnd
  | word (kind : WordEdge) (unicode : Bool)
deriving DecidableEq, Repr

def isWordChar (unicode : Bool) (c : Char) : Bool :=
  if unicode then Text.Property.wordChars.contains c else c.isAlphanum || c = '_'

/-- Whether the neighbourhood of a place is as asked for, given whether there are word characters
on its two sides. -/
def WordEdge.holds (before behind : Bool) : WordEdge → Bool
  | edge => before != behind
  | noEdge => before == behind
  | start => !before && behind
  | stop => before && !behind
  | startHalf => !before
  | stopHalf => !behind

def Look.holds (t : Array Char) (place : Nat) (l : Look) : Bool :=
  let before := if place = 0 then none else t[place - 1]?
  let behind := t[place]?
  match l with
  | textStart => place == 0
  | textEnd => behind.isNone
  | lineStart => before.all (· = '\n')
  | lineEnd => behind.all (· = '\n')
  | pairedStart => before.all (· = '\n') || (before = some '\r' && behind ≠ some '\n')
  | pairedEnd =>
    behind.all (· = '\r') || (behind = some '\n' && before ≠ some '\r')
  | word kind unicode =>
    kind.holds (before.any (isWordChar unicode)) (behind.any (isWordChar unicode))

inductive Matcher where
  | empty
  | chars (s : CharSet)
  | look (l : Look)
  | sequence (first second : Matcher)
  | choice (first second : Matcher)
  | repeated (least : Nat) (most : Option Nat) (part : Matcher)
deriving DecidableEq, Repr

/-- The places of both of two lists, in order, where both are in order. -/
def joinPlaces : List Nat → List Nat → List Nat
  | [], more => more
  | places, [] => places
  | p :: places, q :: more =>
    if p < q then p :: joinPlaces places (q :: more)
    else if q < p then q :: joinPlaces (p :: places) more
    else p :: joinPlaces places more
termination_by places more => places.length + more.length

/-- Does a step a number of times, or until it changes nothing. -/
def stepTimes (step : List Nat → List Nat) : Nat → List Nat → List Nat
  | 0, places => places
  | n + 1, places =>
    let next := step places
    if next = places then places else stepTimes step n next

/-- The places that at most some number of steps lead to from new places, together with places that
are known already. -/
def spread (step : List Nat → List Nat) : Nat → List Nat → List Nat → List Nat
  | 0, _, known => known
  | n + 1, new, known =>
    let next := (step new).filter (· ∉ known)
    if next = [] then known else spread step n next (joinPlaces known next)

namespace Matcher

/-- The places where a part that starts at one of some places can end. Within a text of `n`
characters more than `n + 1` repetitions lead nowhere else. -/
def ends (t : Array Char) : Matcher → List Nat → List Nat
  | empty, places => places
  | chars s, places => places.filterMap fun p =>
    if (t[p]?).any s.contains then some (p + 1) else none
  | look l, places => places.filter fun p => l.holds t p
  | sequence first second, places => second.ends t (first.ends t places)
  | choice first second, places => joinPlaces (first.ends t places) (second.ends t places)
  | repeated least most part, places =>
    let rounds := t.size + 1
    let reached := stepTimes (part.ends t) (min least rounds) places
    let more := match most with
      | some most => min (most - least) rounds
      | none => rounds
    spread (part.ends t) more reached reached

def occursIn (m : Matcher) (t : Text) : Bool :=
  let chars := t.toArray
  !(m.ends chars (List.range (chars.size + 1))).isEmpty

def ofSequence : List Matcher → Matcher
  | [] => empty
  | [part] => part
  | part :: more => sequence part (ofSequence more)

def ofChoice : List Matcher → Matcher
  | [] => empty
  | [part] => part
  | part :: more => choice part (ofChoice more)

def isEmptyOnly : Matcher → Bool
  | empty | look _ => true
  | chars _ => false
  | sequence first second | choice first second => first.isEmptyOnly && second.isEmptyOnly
  | repeated _ most part => most = some 0 || part.isEmptyOnly

end Matcher
end PageQuery.Pattern
