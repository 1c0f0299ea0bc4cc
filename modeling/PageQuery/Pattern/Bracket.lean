import PageQuery.Pattern.Escape

/-!
Sets of characters between brackets: characters, ranges, classes and further sets, which may be
intersected, or taken away from each other.
-/
namespace PageQuery.Pattern

def asciiNames : List (String × AsciiClass) := [
  ("alnum", .alnum), ("alpha", .alpha), ("ascii", .ascii), ("blank", .blank), ("cntrl", .cntrl),
  ("digit", .digit), ("graph", .graph), ("lower", .lower), ("print", .print), ("punct", .punct),
  ("space", .space), ("upper", .upper), ("word", .word), ("xdigit", .xdigit)]

/-- The operators between sets: a character written twice. -/
def setOperators : List (Char × SetOperator) := [
  ('&', .intersection), ('-', .difference), ('~', .symmetricDifference)]

def SetNode.ofAtom? : Atom → Option SetNode
  | .literal l => some (.literal l)
  | .letter span kind negated => some (.letter span kind negated)
  | .property span name negated => some (.property span name negated)
  | .dot _ | .assertion .. => none

def SetNode.behind (left : Option (SetOperator × SetNode)) (right : SetNode) : SetNode :=
  match left with
  | none => right
  | some (operator, left) => .operation ⟨left.span.start, right.span.stop⟩ operator left right

/-- The class of ASCII characters with which a text starts, and how long its writing is. -/
def asciiClass? (t : Text) : Option (AsciiClass × Bool × Nat) := do
  let opening : Text := "[:"
  if !opening.isPrefixOf t then none
  let body := t.drop 2
  let negated := body.head? = some '^'
  let body := if negated then body.drop 1 else body
  let name := body.takeWhile (· ≠ ':')
  let closing : Text := ":]"
  if !closing.isPrefixOf (body.drop name.length) then none
  let (_, kind) ← asciiNames.find? fun (known, _) => known.toList = name
  pure (kind, negated, name.length + (if negated then 5 else 4))

namespace Parse

def setAtom : Parse Atom := do
  match ← peek? with
  | some '\\' => escape
  | some c =>
    let span ← spanOfNext
    bump
    pure (.literal { span, char := c })
  | none => fail .unclosedSet (.point (← mark))

def setOf (a : Atom) : Parse SetNode :=
  match SetNode.ofAtom? a with
  | some s => pure s
  | none => fail .escapeInSet a.span

def bound (a : Atom) : Parse Literal :=
  match a with
  | .literal l => pure l
  | other => fail .rangeOfSets other.span

def setRange (opened : Span) : Parse SetNode := do
  let first ← setAtom
  space
  let r ← get
  match r.rest.head? with
  | none => fail .unclosedSet opened
  | some c =>
    if c ≠ '-' ∨ r.second? = some ']' ∨ r.second? = some '-' then setOf first
    else
      bumpSpace
      if ← atEnd then fail .unclosedSet opened
      let last ← setAtom
      let span : Span := ⟨first.span.start, last.span.stop⟩
      let low ← bound first
      let high ← bound last
      if low.char ≤ high.char then pure (.range span low high) else fail .rangeInOrder span

def leadingHyphens (start : Mark) : Nat → Parse (List SetNode)
  | 0 => pure []
  | fuel + 1 => do
    if (← peek?) ≠ some '-' then pure []
    else
      let span ← spanOfNext
      bumpSpace
      if ← atEnd then fail .unclosedSet (.point start)
      pure (.literal { span, char := '-' } :: (← leadingHyphens start fuel))

/-- Reads the start of a set: the bracket, a circumflex that negates the set, and characters that
stand for themselves only here. -/
def openSet : Parse (Span × Bool × Mark × List SetNode) := do
  let start ← mark
  bumpSpace
  if ← atEnd then fail .unclosedSet (← spanFrom start)
  let negated := (← peek?) = some '^'
  if negated then
    bumpSpace
    if ← atEnd then fail .unclosedSet (← spanFrom start)
  let place ← mark
  let hyphens ← leadingHyphens start (← steps)
  if hyphens = [] ∧ (← peek?) = some ']' then
    let span ← spanOfNext
    bumpSpace
    if ← atEnd then fail .unclosedSet (← spanFrom start)
    pure (← spanFrom start, negated, place, [.literal { span, char := ']' }])
  else pure (← spanFrom start, negated, place, hyphens)

/-- What was read of a set: the part that opens it, whether it is negated, the sets before the last
operator, where its items start, and its items, the last one first. -/
structure OpenSet where
  opened : Span
  negated : Bool
  left : Option (SetOperator × SetNode) := none
  place : Mark
  items : List SetNode

def OpenSet.content (s : OpenSet) : SetNode :=
  SetNode.behind s.left (SetNode.ofItems s.place s.items.reverse)

def startSet : Parse OpenSet := do
  let (opened, negated, place, items) ← openSet
  pure { opened, negated, place, items := items.reverse }

structure ClosedSet where
  span : Span
  negated : Bool
  content : SetNode

def restOfSet : Nat → OpenSet → Parse ClosedSet
  | 0, s => fail .unclosedSet s.opened
  | fuel + 1, s => do
    space
    let r ← get
    match r.rest with
    | [] => fail .unclosedSet s.opened
    | '[' :: _ =>
      match asciiClass? r.rest with
      | some (kind, negated, length) =>
        set (r.skip length)
        restOfSet fuel { s with items := .ascii ⟨r.mark, ← mark⟩ kind negated :: s.items }
      | none =>
        let inner ← restOfSet fuel (← startSet)
        restOfSet fuel
          { s with items := .bracketed inner.span inner.negated inner.content :: s.items }
    | ']' :: _ =>
      bump
      pure { span := ← spanFrom s.opened.start, negated := s.negated, content := s.content }
    | c :: more =>
      match setOperators.lookup c with
      | some operator =>
        if more.head? = some c then
          bump
          bump
          restOfSet fuel
            { s with left := some (operator, s.content), place := ← mark, items := [] }
        else restOfSet fuel { s with items := (← setRange s.opened) :: s.items }
      | none => restOfSet fuel { s with items := (← setRange s.opened) :: s.items }

def closedSet : Parse ClosedSet := do
  let fuel ← steps
  restOfSet fuel (← startSet)

end Parse
end PageQuery.Pattern
