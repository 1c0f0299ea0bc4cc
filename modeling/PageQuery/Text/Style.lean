import PageQuery.Text.Basic
import PageQuery.Text.Unstyled

/-!
Styles of text on a terminal. A styled text holds sequences that switch styles on and off; where
there are no styles they are left out.
-/
namespace PageQuery.Text

/-- A style: the numbers that switch it on, one after another. -/
structure Style where
  codes : List Nat
deriving DecidableEq, Repr

namespace Style

def bold : Style := ⟨[1]⟩

def heading : Style := ⟨[1, 4]⟩

def alarm : Style := ⟨[1, 31]⟩

def green : Style := ⟨[32]⟩

def yellow : Style := ⟨[33]⟩

def blue : Style := ⟨[34]⟩

def cyan : Style := ⟨[36]⟩

def grey : Style := ⟨[90]⟩

def sequence (code : Nat) : Text := "\x1b[" ++ ofNat code ++ "m"

def paint (s : Style) (t : Text) : Text := s.codes.flatMap sequence ++ t ++ sequence 0

end Style

/-- A styled text on a stream with or without styles. -/
def onStream (styles : Bool) (t : Text) : Text := if styles then t else unstyled t

end PageQuery.Text
