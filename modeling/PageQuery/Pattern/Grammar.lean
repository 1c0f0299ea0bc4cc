import PageQuery.Pattern.Bracket
import PageQuery.Text.Property
import PageQuery.Word

/-!
Reading a whole pattern: parts one after another, choices between them, groups, flags and
repetitions.
-/
namespace PageQuery.Pattern

def flagLetters : List (Char × Flag) := [
  ('i', .ignoreCase), ('m', .manyLines), ('s', .dotAll), ('U', .swapGreed), ('u', .unicode),
  ('R', .pairedReturns), ('x', .freeSpacing)]

def startsName (c : Char) : Bool := c = '_' || Text.Property.alphabetic.contains c

def continuesName (c : Char) : Bool :=
  c = '_' || c = '.' || c = '[' || c = ']' || Text.Property.alphabetic.contains c
    || Text.Property.numeric.contains c

/-- What a bracket opens: a group, or nothing but a change of flags. -/
inductive Opening where
  | flags (span : Span) (items : List FlagItem)
  | group (span : Span) (items : List FlagItem)
deriving DecidableEq, Repr

def plainAtom (span : Span) (c : Char) : Atom :=
  if c = '.' then .dot span
  else if c = '^' then .assertion span .lineStart
  else if c = '$' then .assertion span .lineEnd
  else .literal { span, char := c }

namespace Parse

/-- Reads flags up to a colon or a closing bracket; `dangling` is a hyphen that no flag follows
yet. -/
def flagsWithin (items : List FlagItem) (dangling : Option Span) : Nat → Parse (List FlagItem)
  | 0 => pure items
  | fuel + 1 => do
    match ← peek? with
    | none => fail .flagUnfinished (.point (← mark))
    | some c =>
      if c = ':' ∨ c = ')' then
        match dangling with
        | some span => fail .flagNegationDangling span
        | none => pure items
      else
        let span ← spanOfNext
        let flag ← if c = '-' then pure none else match flagLetters.lookup c with
          | some flag => pure (some flag)
          | none => fail .flagUnknown span
        match items.find? (·.flag = flag) with
        | some first =>
          fail (if flag = none then .flagNegationTwice first.span else .flagTwice first.span) span
        | none =>
          bump
          flagsWithin (items ++ [⟨span, flag⟩]) (if flag = none then some span else none) fuel

def nameWithin (isFirst : Bool) : Nat → Parse Text
  | 0 => pure []
  | fuel + 1 => do
    match ← peek? with
    | none => fail .nameUnclosed (.point (← mark))
    | some c =>
      if c = '>' then pure []
      else
        if !(if isFirst then startsName c else continuesName c) then
          fail .nameCharacter (← spanOfNext)
        bump
        pure (c :: (← nameWithin false fuel))

/-- Reads the name of a group; a name stands only once in a pattern. -/
def groupName : Parse Unit := do
  let start ← mark
  let name ← nameWithin true (← steps)
  let span ← spanFrom start
  bump
  if name = [] then fail .nameEmpty (.point start)
  let r ← get
  match r.names.lookup name with
  | some first => fail (.nameTwice first) span
  | none => set { r with names := (name, span) :: r.names }

def lookAroundSigns : List Text := ["?=", "?!", "?<=", "?<!"]

def opening : Parse Opening := do
  let bracket ← spanOfNext
  bump
  space
  for sign in lookAroundSigns do
    if ← take sign then fail .lookAround (← spanFrom bracket.start)
  let inside ← mark
  if (← take "?P<") || (← take "?<") then
    groupName
    pure (.group bracket [])
  else if ← take "?" then
    if ← atEnd then fail .groupUnclosed bracket
    let items ← flagsWithin [] none (← steps)
    let isClosed := (← peek?) = some ')'
    bump
    if isClosed then
      if items = [] then fail .nothingRepeated (.point inside)
      pure (.flags (← spanFrom bracket.start) items)
    else pure (.group bracket items)
  else pure (.group bracket [])

/-- Reads a decimal number. A cause instead of the number tells why there is none. -/
def decimal : Parse (Except Problem Nat) := do
  modify fun r =>
    let blanks := (r.rest.takeWhile Text.isBlank).length
    r.skip blanks
  let start ← mark
  let digits ← takeWhile Char.isDigit
  let span ← spanFrom start
  let _ ← takeWhile Text.isBlank
  match Text.toNat? digits with
  | none => pure (.error ⟨.countEmpty, span⟩)
  | some n => pure (if n < Word.bound32 then .ok n else .error ⟨.decimalTooLarge, span⟩)

def number (n : Except Problem Nat) : Parse Nat :=
  match n with
  | .ok n => pure n
  | .error problem => throw problem

def lazyMark : Parse Unit := do
  if (← peek?) = some '?' then bump

/-- The part that a repetition is about: the last one that was read. -/
def repeated (parts : List Node) : Parse (Node × List Node) := do
  match parts with
  | part :: before =>
    if part.isRepeatable then pure (part, before) else fail .nothingRepeated (.point (← mark))
  | [] => fail .nothingRepeated (.point (← mark))

def shortRepetition (least : Nat) (most : Option Nat) (parts : List Node) :
    Parse (List Node) := do
  let (part, before) ← repeated parts
  bump
  lazyMark
  pure (.repetition (← spanFrom part.span.start) least most part :: before)

def countedRepetition (parts : List Node) : Parse (List Node) := do
  let start ← mark
  let (part, before) ← repeated parts
  bumpSpace
  if ← atEnd then fail .countUnclosed (← spanFrom start)
  let first ← decimal
  if ← atEnd then fail .countUnclosed (← spanFrom start)
  let (least, most) ← if (← peek?) = some ',' then do
      bumpSpace
      if ← atEnd then fail .countUnclosed (← spanFrom start)
      if (← peek?) = some '\x7d' then pure (← number first, none)
      else
        let least ← number first
        let second ← decimal
        pure (least, some (← number second))
    else do
      let count ← number first
      pure (count, some count)
  if (← peek?) ≠ some '\x7d' then fail .countUnclosed (← spanFrom start)
  bumpSpace
  lazyMark
  if most.any (· < least) then fail .countOrder (← spanFrom start)
  pure (.repetition (← spanFrom part.span.start) least most part :: before)

/-- What was read of a group: the branches before the last bar, the place behind the last bar, and
the parts since then; branches and parts are read backwards. -/
structure OpenChoice where
  start : Mark
  branches : List Node := []
  place : Mark
  parts : List Node := []

def OpenChoice.branch (o : OpenChoice) (stop : Mark) : Node :=
  .ofParts ⟨o.place, stop⟩ o.parts.reverse

def OpenChoice.close (o : OpenChoice) (stop : Mark) : Node :=
  match o.branches with
  | [] => o.branch stop
  | branches => .choice ⟨o.start, stop⟩ (o.branch stop :: branches).reverse

def switchSpacing (items : List FlagItem) : Parse Unit :=
  match switched? .freeSpacing items with
  | some on => modify fun r => { r with freeSpacing := on }
  | none => pure ()

/-- Reads a choice up to the end of the pattern, or up to the bracket that closes the group that
opens at a part. -/
def choiceWithin (group : Option Span) : Nat → OpenChoice → Parse Node
  | 0, o => do pure (o.close (← mark))
  | fuel + 1, o => do
    space
    let here ← mark
    match ← peek? with
    | none => match group with
      | some bracket => fail .groupUnclosed bracket
      | none => pure (o.close here)
    | some '(' =>
      match ← opening with
      | .flags span items =>
        switchSpacing items
        choiceWithin group fuel { o with parts := .flags span items :: o.parts }
      | .group bracket items =>
        let outer := (← get).freeSpacing
        switchSpacing items
        let inside ← mark
        let part ← choiceWithin (some bracket) fuel { start := inside, place := inside }
        modify fun r => { r with freeSpacing := outer }
        bump
        let span : Span := ⟨bracket.start, ← mark⟩
        choiceWithin group fuel { o with parts := .group span items part :: o.parts }
    | some ')' =>
      if group.isNone then fail .groupUnopened (← spanOfNext)
      pure (o.close here)
    | some '|' =>
      bump
      choiceWithin group fuel
        { o with branches := o.branch here :: o.branches, place := ← mark, parts := [] }
    | some '[' =>
      let s ← closedSet
      choiceWithin group fuel { o with parts := .set s.span s.negated s.content :: o.parts }
    | some '?' => choiceWithin group fuel { o with parts := ← shortRepetition 0 (some 1) o.parts }
    | some '*' => choiceWithin group fuel { o with parts := ← shortRepetition 0 none o.parts }
    | some '+' => choiceWithin group fuel { o with parts := ← shortRepetition 1 none o.parts }
    | some '\x7b' => choiceWithin group fuel { o with parts := ← countedRepetition o.parts }
    | some '\\' => choiceWithin group fuel { o with parts := .atom (← escape) :: o.parts }
    | some c =>
      let span ← spanOfNext
      bump
      choiceWithin group fuel { o with parts := .atom (plainAtom span c) :: o.parts }

def pattern : Parse Node := do
  choiceWithin none (← steps) { start := {}, place := {} }

end Parse

/-- Reads a pattern, and refuses what is nested too deep. -/
def Node.parse (t : Text) : Except Problem Node := do
  let (node, _) ← Parse.pattern.run { rest := t }
  node.check 0
  pure node

end PageQuery.Pattern
