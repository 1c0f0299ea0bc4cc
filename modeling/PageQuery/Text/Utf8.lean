import PageQuery.Text.Basic

/-!
Texts as bytes. Reading bytes keeps what is not well-formed: a run of bytes that starts a character
and is cut off, or a byte that starts none, is one stray symbol.
-/
namespace PageQuery.Text

abbrev Bytes := List UInt8

/-- What bytes hold: a character, or bytes that are none. -/
inductive Symbol where
  | char (c : Char)
  | stray (bytes : Bytes)
deriving DecidableEq, Repr

def byte (n : Nat) : UInt8 := UInt8.ofNat n

/-- The bytes of a character, by the number of bits of its code point. -/
def encodeChar (c : Char) : Bytes :=
  let n := c.toNat
  if n < 0x80 then [byte n]
  else if n < 0x800 then [byte (0xC0 + n / 64), byte (0x80 + n % 64)]
  else if n < 0x10000 then
    [byte (0xE0 + n / 4096), byte (0x80 + n / 64 % 64), byte (0x80 + n % 64)]
  else
    [byte (0xF0 + n / 262144), byte (0x80 + n / 4096 % 64), byte (0x80 + n / 64 % 64),
      byte (0x80 + n % 64)]

def encode (t : Text) : Bytes := t.flatMap encodeChar

/-- What a first byte asks of the bytes after it. -/
structure Lead where
  /-- How many bytes follow. -/
  following : Nat
  /-- The bits that the first byte holds. -/
  bits : Nat
  /-- The least second byte: shorter forms of the character are refused. -/
  low : Nat := 0x80
  /-- The greatest second byte: surrogates and numbers past the last character are refused. -/
  high : Nat := 0xBF
deriving DecidableEq, Repr

/-- The first bytes of characters of more than one byte. -/
def lead? (b : UInt8) : Option Lead :=
  let n := b.toNat
  if n < 0xC2 then none
  else if n < 0xE0 then some { following := 1, bits := n - 0xC0 }
  else if n = 0xE0 then some { following := 2, bits := 0, low := 0xA0 }
  else if n = 0xED then some { following := 2, bits := 0xD, high := 0x9F }
  else if n < 0xF0 then some { following := 2, bits := n - 0xE0 }
  else if n = 0xF0 then some { following := 3, bits := 0, low := 0x90 }
  else if n < 0xF4 then some { following := 3, bits := n - 0xF0 }
  else if n = 0xF4 then some { following := 3, bits := 4, high := 0x8F }
  else none

/-- The longest run of at most `count` bytes that can follow, the first of them between bounds. -/
def following : Nat → Nat → Nat → Bytes → Bytes
  | count + 1, low, high, b :: rest =>
    if low ≤ b.toNat ∧ b.toNat ≤ high then b :: following count 0x80 0xBF rest else []
  | _, _, _, _ => []

/-- The first symbol of bytes that start with `b`, and how many bytes after `b` belong to it. -/
def firstSymbol (b : UInt8) (rest : Bytes) : Symbol × Nat :=
  if b.toNat < 0x80 then (.char (Char.ofNat b.toNat), 0)
  else match lead? b with
    | none => (.stray [b], 0)
    | some lead =>
      let more := following lead.following lead.low lead.high rest
      if more.length = lead.following then
        (.char (Char.ofNat (more.foldl (fun n c => n * 64 + (c.toNat - 0x80)) lead.bits)),
          more.length)
      else (.stray (b :: more), more.length)

def symbolsWithin : Nat → Bytes → List Symbol
  | fuel + 1, b :: rest =>
    let (symbol, used) := firstSymbol b rest
    symbol :: symbolsWithin fuel (rest.drop used)
  | _, _ => []

def symbols (bytes : Bytes) : List Symbol := symbolsWithin bytes.length bytes

/-- The text of symbols, if none is stray. -/
def ofSymbols? : List Symbol → Option Text
  | [] => some []
  | .char c :: rest => (ofSymbols? rest).map (c :: ·)
  | .stray _ :: _ => none

def decode? (bytes : Bytes) : Option Text := ofSymbols? (symbols bytes)

def replacement : Char := '\uFFFD'

/-- The text that bytes hold, with one replacement character for each stray symbol. -/
def decodeLossy (bytes : Bytes) : Text :=
  (symbols bytes).map fun
    | .char c => c
    | .stray _ => replacement

def Symbol.encode : Symbol → Bytes
  | .char c => encodeChar c
  | .stray bytes => bytes

end PageQuery.Text
