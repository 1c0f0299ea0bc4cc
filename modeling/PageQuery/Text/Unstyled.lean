import PageQuery.Text.Utf8

/-!
Texts on a stream that shows no styles: control characters and the sequences that would style the
text or steer a terminal are left out. White space that moves the place of writing is shown even
inside a sequence; what follows it is shown too, up to the next character that cannot be, and only
then the sequence goes on.
-/
namespace PageQuery.Text

inductive StylePlace where
  /-- In the text that is shown. -/
  | shown
  /-- Behind an escape character. -/
  | escape
  /-- Behind an escape character and marks that say more about what follows. -/
  | marked
  /-- In the numbers of a control sequence. -/
  | numbers
  /-- In the head of a string for the terminal's device. -/
  | device
  /-- In such a head, behind marks that say more about what follows. -/
  | deviceMarked
  /-- In a string for the terminal that a bell can end. -/
  | title
  /-- In another string for the terminal. -/
  | string
deriving DecidableEq, Repr

/-- White space that moves the place of writing. -/
def isMove (c : Char) : Bool := c = '\t' || c = '\n' || c = '\x0c' || c = '\r'

def isShown (c : Char) : Bool := isMove c || (' ' ≤ c && c ≠ '\x7f')

namespace StylePlace

def opened (c : Char) : StylePlace :=
  if c = '[' then numbers
  else if c = ']' then title
  else if c = 'P' then device
  else if c = 'X' ∨ c = '^' ∨ c = '_' then string
  else shown

def within (place : StylePlace) (c : Char) : StylePlace :=
  let isMark := ' ' ≤ c && c ≤ '/'
  let isFinal := '@' ≤ c && c ≤ '~'
  let isLetter := '0' ≤ c && c ≤ '~'
  match place with
  | shown => shown
  | escape => if isMark then marked else if isLetter then opened c else escape
  | marked => if isLetter then shown else marked
  | numbers => if isFinal then shown else numbers
  | device => if isMark then deviceMarked else if isFinal || c = ':' then string else device
  | deviceMarked => if isLetter then string else deviceMarked
  | title => if c = '\x07' then shown else title
  | string => if 0x9C ∈ encodeChar c then shown else string

def showsMoves : StylePlace → Bool
  | escape | marked | numbers => true
  | _ => false

/-- The place behind a character, and whether the character is shown. -/
def step (place : StylePlace) (c : Char) : StylePlace × Bool :=
  if c = '\x1b' then (escape, false)
  else if c = '\x18' ∨ c = '\x1a' then (shown, false)
  else (place.within c, if place = shown then isShown c else place.showsMoves && isMove c)

/-- What is shown of a text from a place on. In a `run` of shown characters the place does not
count; a character beyond ASCII ends the sequence that the run interrupts. -/
def visible (place : StylePlace) (run : Bool) : Text → Text
  | [] => []
  | c :: rest =>
    if run && isShown c then c :: visible (if c.toNat < 0x80 then place else shown) true rest
    else
      let (next, isShown) := place.step c
      if isShown then c :: visible next true rest else visible next false rest

end StylePlace

def unstyled (t : Text) : Text := StylePlace.shown.visible false t

end PageQuery.Text
