import PageQuery.Pdf.Object

/-!
The encodings of fonts. Most give a character to each byte; those of Unicode text read two bytes as
a character. Bytes beyond ASCII show nothing in the first ones.
-/
namespace PageQuery.Pdf

open Text (Bytes)

/-- The encoding that needs a map to characters beside it. -/
def mappedEncoding : Bytes := ascii "Identity-H"

def asciiChar (b : UInt8) : Option Char := if b < 0x80 then some (Char.ofNat b.toNat) else none

/-- The character of a byte where quotes are typographic. -/
def standardChar (b : UInt8) : Option Char :=
  if b = 0x27 then some '\u2019' else if b = 0x60 then some '\u2018' else asciiChar b

/-- The numbers of the characters from the space to `/` among expert characters. -/
def expertMarks : List Nat := [0x20, 0xF721, 0xF6F8, 0xF7A2, 0xF724, 0xF6E4, 0xF726, 0xF7B4, 0x207D,
  0x207E, 0x2025, 0x2024, 0x2C, 0x2D, 0x2E, 0x2044]

def expertOthers : List (Nat × Nat) := [
  (0x3A, 0x3A), (0x3B, 0x3B), (0x3D, 0xF6DE), (0x3F, 0xF73F), (0x44, 0xF7F0), (0x47, 0xBC),
  (0x48, 0xBD), (0x49, 0xBE), (0x4A, 0x215B), (0x4B, 0x215C), (0x4C, 0x215D), (0x4D, 0x215E),
  (0x4E, 0x2153), (0x4F, 0x2154), (0x56, 0xFB00), (0x57, 0xFB01), (0x58, 0xFB02), (0x59, 0xFB03),
  (0x5A, 0xFB04), (0x5B, 0x208D), (0x5D, 0x208E), (0x5E, 0xF6F6), (0x5F, 0xF6E5), (0x60, 0xF760),
  (0x7B, 0x20A1), (0x7C, 0xF6DC), (0x7D, 0xF6DD), (0x7E, 0xF6FE)]

/-- The expert character of a byte: figures and small capitals have a form of their own. -/
def expertChar (b : UInt8) : Option Char :=
  let n := b.toNat
  let number :=
    if 0x20 ≤ n ∧ n ≤ 0x2F then expertMarks[n - 0x20]?
    else if (0x30 ≤ n ∧ n ≤ 0x39) ∨ (0x61 ≤ n ∧ n ≤ 0x7A) then some (0xF700 + n)
    else expertOthers.lookup n
  number.map Char.ofNat

def byteEncodings : List (String × (UInt8 → Option Char)) := [
  ("StandardEncoding", standardChar), ("MacRomanEncoding", asciiChar),
  ("MacExpertEncoding", expertChar), ("WinAnsiEncoding", asciiChar),
  ("PDFDocEncoding", asciiChar)]

def byteMap? (encoding : Bytes) : Option (UInt8 → Option Char) :=
  (byteEncodings.find? fun (name, _) => ascii name = encoding).map (·.2)

/-- The encodings in which two bytes are a character. -/
def pairEncodings : List Bytes := [ascii "UniGB-UCS2-H", ascii "UniGB-UTF16-H"]

/-- The text of pairs of ASCII bytes; a byte without a partner is no character. -/
def pairText : Bytes → Text
  | high :: low :: more => Char.ofNat (high.toNat * 256 + low.toNat) :: pairText more
  | [_] => [Text.replacement]
  | [] => []

def decodeWith? (encoding bytes : Bytes) : Option Text :=
  match byteMap? encoding with
  | some charOf => some (bytes.filterMap charOf)
  | none => if encoding ∈ pairEncodings then some (pairText bytes) else none

end PageQuery.Pdf
