import PageQuery.Pattern.Matcher
import PageQuery.Text.Utf8

/-!
How much room a pattern takes when it is laid out as an automaton that reads the bytes of a text.
A repetition takes the room of its part as often as it is counted.
-/
namespace PageQuery.Pattern

def stateRoom : Nat := 32

/-- The room of a step on a byte that a state makes beside its own. -/
def stepRoom : Nat := 8

/-- The room of a way that a state leaves open. -/
def wayRoom : Nat := 4

/-- The intervals of bytes of equally long characters from one number to another, the first byte
first. -/
abbrev ByteRow := List (Nat × Nat)

def bytesOf (n : Nat) : List Nat := (Text.encodeChar (Char.ofNat n)).map (·.toNat)

/-- The last numbers of characters of one, two, three and four bytes. -/
def lastOfLength : List Nat := [0x7F, 0x7FF, 0xFFFF, CharSet.greatest]

/-- The numbers between which there is no character. -/
def gap : Nat × Nat := (0xD800, 0xDFFF)

def equalLengths (interval : Nat × Nat) : List (Nat × Nat) :=
  let solid := CharSet.without interval gap
  let starts := 0 :: lastOfLength.map (· + 1)
  solid.flatMap fun i => (starts.zip lastOfLength).filterMap (CharSet.meet? i)

/-- Cuts an interval of equally long characters so that in each part every byte runs through an
interval of its own, whatever the bytes before it are. -/
def byteRows : Nat → Nat × Nat → List ByteRow
  | 0, (first, last) => [(bytesOf first).zip (bytesOf last)]
  | fuel + 1, (first, last) =>
    let cut? := [64, 4096, 262144].findSome? fun block =>
      if first / block = last / block ∨ last < 0x80 then none
      else if first % block ≠ 0 then some (first / block * block + block)
      else if last % block ≠ block - 1 then some (last / block * block)
      else none
    match cut? with
    | some middle => byteRows fuel (first, middle - 1) ++ byteRows fuel (middle, last)
    | none => [(bytesOf first).zip (bytesOf last)]

/-- How many different starts some rows have, where equal starts stand together. -/
def countStarts : ByteRow → List ByteRow → Nat
  | _, [] => 0
  | before, row :: more =>
    let shared := ((before.zip row).takeWhile fun (a, b) => a = b).length
    row.length - shared + countStarts row more

def setRoom (s : CharSet) : Nat :=
  if s.intervals.all (·.2 < 0x80) then
    match s.intervals with
    | [(first, last)] => if first = last then stateRoom else 2 * stateRoom + stepRoom
    | intervals => 2 * stateRoom + stepRoom * intervals.length
  else
    let rows := (s.intervals.flatMap equalLengths).flatMap (byteRows 32)
    match s.intervals with
    | [(first, last)] =>
      if first = last then stateRoom * (bytesOf first).length
      else (2 + countStarts [] rows) * stateRoom + wayRoom * rows.length
    | _ => (2 + countStarts [] rows) * stateRoom + wayRoom * rows.length

/-- The room of a part that occurs a number of times, and may occur further times: each of these
takes a state more, with two ways. -/
def roomOfCounted (part least : Nat) (most : Option Nat) : Nat :=
  match most with
  | some most =>
    least * part + (most - least) * (part + stateRoom + 2 * wayRoom)
      + (if least = most then 0 else stateRoom)
  | none => max least 1 * part + stateRoom + 2 * wayRoom

def Matcher.room : Matcher → Nat
  | .empty | .look _ => stateRoom
  | .chars s => setRoom s
  | .sequence first second => first.room + second.room
  | .choice first second => first.room + second.room + wayRoom
  | .repeated least most part => roomOfCounted part.room least most

end PageQuery.Pattern
