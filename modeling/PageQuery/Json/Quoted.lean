import PageQuery.Json.Problem
import PageQuery.Text.Utf8

/-!
Strings of the data format: how they are written, and how they are read in two steps, first to the
pieces between the quotes and then to the text that the pieces stand for.
-/
namespace PageQuery.Json

open Text (Symbol)

def escapeChar (c : Char) : Text :=
  if c = '"' then "\\\""
  else if c = '\\' then "\\\\"
  else if c = '\n' then "\\n"
  else if c = '\r' then "\\r"
  else if c = '\t' then "\\t"
  else if c = '\x08' then "\\b"
  else if c = '\x0c' then "\\f"
  else if c.toNat < 0x20 then
    "\\u00" ++ List.replicate (if c.toNat < 0x10 then 1 else 0) '0' ++ Text.ofNatHex c.toNat
  else [c]

def quote (t : Text) : Text := '"' :: t.flatMap escapeChar ++ ['"']

inductive Piece where
  | char (c : Char)
  | stray (bytes : Text.Bytes)
  /-- A backslash and a letter, for a character. -/
  | escape (c : Char)
  /-- A backslash and the number of a unit of 16 bits. -/
  | hex (unit : Nat)
deriving DecidableEq, Repr

inductive StringEnd where
  | closed
  | unterminated
  | control
  | badEscape
  | badHex
deriving DecidableEq, Repr

/-- A string as written, up to its end or to the first thing that is wrong. -/
structure RawString where
  pieces : List Piece
  ending : StringEnd
deriving DecidableEq, Repr

/-- The characters that a backslash and a letter stand for. -/
def unescape? (c : Char) : Option Char :=
  match c with
  | '"' => some '"'
  | '\\' => some '\\'
  | '/' => some '/'
  | 'b' => some '\x08'
  | 'f' => some '\x0c'
  | 'n' => some '\n'
  | 'r' => some '\r'
  | 't' => some '\t'
  | _ => none

def hexDigit? (c : Char) : Option Nat :=
  if c.isDigit then some (c.toNat - '0'.toNat)
  else if 'a' ≤ c ∧ c ≤ 'f' then some (c.toNat - 'a'.toNat + 10)
  else if 'A' ≤ c ∧ c ≤ 'F' then some (c.toNat - 'A'.toNat + 10)
  else none

def hexUnit? (a b c d : Char) : Option Nat := do
  let a ← hexDigit? a
  let b ← hexDigit? b
  let c ← hexDigit? c
  let d ← hexDigit? d
  pure (((a * 16 + b) * 16 + c) * 16 + d)

def byteCount (s : List Symbol) : Nat := (s.flatMap Symbol.encode).length

namespace RawString

def stop (ending : StringEnd) : RawString × List Symbol := (⟨[], ending⟩, [])

def cons (p : Piece) (r : RawString × List Symbol) : RawString × List Symbol :=
  (⟨p :: r.1.pieces, r.1.ending⟩, r.2)

/-- Reads the pieces after an opening quote, and gives what follows the closing one. -/
def take : List Symbol → RawString × List Symbol
  | [] => stop .unterminated
  | .stray bytes :: rest => cons (.stray bytes) (take rest)
  | .char '"' :: rest => (⟨[], .closed⟩, rest)
  | .char '\\' :: [] => stop .unterminated
  | .char '\\' :: .char 'u' :: .char a :: .char b :: .char c :: .char d :: rest =>
    match hexUnit? a b c d with
    | some unit => cons (.hex unit) (take rest)
    | none => stop .badHex
  | .char '\\' :: .char 'u' :: rest =>
    if byteCount rest < 4 then stop .unterminated else stop .badHex
  | .char '\\' :: .char e :: rest =>
    match unescape? e with
    | some c => cons (.escape c) (take rest)
    | none => stop .badEscape
  | .char '\\' :: .stray _ :: _ => stop .badEscape
  | .char c :: rest => if c.toNat < 0x20 then stop .control else cons (.char c) (take rest)

end RawString

def StringEnd.problem? : StringEnd → Option Problem
  | closed => none
  | unterminated => some .endOfString
  | control => some .controlCharacter
  | badEscape | badHex => some .invalidEscape

/-- What is wrong when a string ends behind the first half of a pair of units. -/
def StringEnd.problemInPair : StringEnd → Problem
  | unterminated => .endOfString
  | badHex => .invalidEscape
  | _ => .unfinishedHexEscape

def isHighHalf (unit : Nat) : Bool := 0xD800 ≤ unit && unit ≤ 0xDBFF

def isLowHalf (unit : Nat) : Bool := 0xDC00 ≤ unit && unit ≤ 0xDFFF

/-- The text of pieces. A unit from the range of halves needs its partner behind it. -/
def textOfPieces (ending : StringEnd) : List Piece → Except Problem Text
  | [] => .ok []
  | .char c :: rest => (textOfPieces ending rest).map (c :: ·)
  | .escape c :: rest => (textOfPieces ending rest).map (c :: ·)
  | .stray _ :: rest => textOfPieces ending rest
  | .hex high :: .hex low :: rest =>
    if isLowHalf high then .error .loneSurrogate
    else if isHighHalf high then
      if isLowHalf low then
        let n := 0x10000 + (high - 0xD800) * 0x400 + (low - 0xDC00)
        (textOfPieces ending rest).map (Char.ofNat n :: ·)
      else .error .loneSurrogate
    else (textOfPieces ending (.hex low :: rest)).map (Char.ofNat high :: ·)
  | .hex unit :: rest =>
    if isLowHalf unit then .error .loneSurrogate
    else if isHighHalf unit then
      .error (if rest.isEmpty then ending.problemInPair else .unfinishedHexEscape)
    else (textOfPieces ending rest).map (Char.ofNat unit :: ·)

namespace RawString

def hasStray (r : RawString) : Bool := r.pieces.any fun
  | .stray _ => true
  | _ => false

/-- The text of a string, or the first thing that is wrong with it. Bytes that are no text are found
last, when the string is complete. -/
def text (r : RawString) : Except Problem Text := do
  let t ← textOfPieces r.ending r.pieces
  match r.ending.problem? with
  | some problem => throw problem
  | none => if r.hasStray then throw .invalidCodePoint else pure t

/-- Passes over a string whose text is not needed: only its writing has to be right. -/
def skip (r : RawString) : Except Problem Unit :=
  match r.ending.problem? with
  | some problem => .error problem
  | none => .ok ()

end RawString
end PageQuery.Json
