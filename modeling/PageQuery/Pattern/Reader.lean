import PageQuery.Pattern.Node
import PageQuery.Text.Blank

/-!
Reading a pattern character by character. Where free spacing is on, blanks and comments between the
parts of a pattern are passed over.
-/
namespace PageQuery.Pattern

structure Reader where
  rest : Text
  mark : Mark := {}
  freeSpacing : Bool := false
  /-- The names of groups. -/
  names : List (Text × Span) := []
deriving DecidableEq, Repr

/-- Passes over blanks, and over comments from a number sign to the end of the line. -/
def dropSpace (inComment : Bool) (mark : Mark) : Text → Text × Mark
  | [] => ([], mark)
  | c :: rest =>
    if inComment then dropSpace (c != '\n') (mark.behind c) rest
    else if Text.isBlank c then dropSpace false (mark.behind c) rest
    else if c = '#' then dropSpace true (mark.behind c) rest
    else (c :: rest, mark)

namespace Reader

def next (r : Reader) : Reader :=
  match r.rest with
  | [] => r
  | c :: rest => { r with rest, mark := r.mark.behind c }

def skip (r : Reader) : Nat → Reader
  | 0 => r
  | n + 1 => r.next.skip n

def space (r : Reader) : Reader :=
  if r.freeSpacing then
    let (rest, mark) := dropSpace false r.mark r.rest
    { r with rest, mark }
  else r

/-- The character behind the next one, blanks and the starts of comments left out where there is
free spacing. -/
def second? (r : Reader) : Option Char :=
  let behind := r.rest.drop 1
  if r.freeSpacing then
    let solid := behind.dropWhile Text.isBlank
    let solid := match solid with
      | '#' :: comment => comment.dropWhile Text.isBlank
      | solid => solid
    solid.head?.or behind.head?
  else behind.head?

end Reader

abbrev Parse := StateT Reader (Except Problem)

namespace Parse

def fail {α : Type} (cause : Cause) (span : Span) : Parse α := throw ⟨cause, span⟩

def mark : Parse Mark := do pure (← get).mark

def spanFrom (start : Mark) : Parse Span := do pure ⟨start, ← mark⟩

def peek? : Parse (Option Char) := do pure (← get).rest.head?

def atEnd : Parse Bool := do pure (← get).rest.isEmpty

def spanOfNext : Parse Span := do
  let r ← get
  pure ⟨r.mark, r.next.mark⟩

def bump : Parse Unit := modify Reader.next

def space : Parse Unit := modify Reader.space

def bumpSpace : Parse Unit := do
  bump
  space

/-- Goes behind a text, if it stands next; tells whether it did. -/
def take (t : Text) : Parse Bool := do
  let r ← get
  if t.isPrefixOf r.rest then
    set (r.skip t.length)
    pure true
  else pure false

/-- As many steps as reading can take: one more than there are characters. -/
def steps : Parse Nat := do pure ((← get).rest.length + 1)

/-- Reads characters as long as they satisfy a test; blanks and comments between them are passed
over. -/
def takeWhileWithin (test : Char → Bool) : Nat → Parse Text
  | 0 => pure []
  | fuel + 1 => do
    match ← peek? with
    | some c =>
      if test c then do
        bumpSpace
        pure (c :: (← takeWhileWithin test fuel))
      else pure []
    | none => pure []

def takeWhile (test : Char → Bool) : Parse Text := do takeWhileWithin test (← steps)

end Parse
end PageQuery.Pattern
