import PageQuery.Text.Utf8

/-!
The objects of PDF files: their written form and how they are read.
-/
namespace PageQuery.Pdf

open Text (Bytes)

def ascii (word : String) : Bytes := Text.encode word

/-- An object. References name other objects by number. -/
inductive Object where
  | null
  | bool (b : Bool)
  | integer (n : Int)
  /-- A number with a point, as written. -/
  | real (digits : Bytes)
  | name (name : Bytes)
  | string (content : Bytes)
  | array (items : List Object)
  | dictionary (entries : List (Bytes × Object))
  | reference (number : Nat)
deriving Repr

namespace Object

def needsSpace : Object → Bool
  | null | bool _ | integer _ | real _ | reference _ => true
  | _ => false

def spaceBefore (o : Object) : Bytes := if o.needsSpace then ascii " " else []

/-- Which parentheses of a string have no partner. They are found from left to right; `opened` holds
the places of those that are open. -/
def unbalanced : Nat → List Nat → Bytes → List Nat
  | _, opened, [] => opened
  | place, opened, b :: rest =>
    if b = 0x28 then unbalanced (place + 1) (place :: opened) rest
    else if b = 0x29 then
      match opened with
      | [] => place :: unbalanced (place + 1) [] rest
      | _ :: more => unbalanced (place + 1) more rest
    else unbalanced (place + 1) opened rest

/-- A string between parentheses. Inner ones are escaped if they have no partner. -/
def quoteString (content : Bytes) : Bytes :=
  let alone := unbalanced 0 [] content
  let escaped := content.zipIdx.flatMap fun (b, place) =>
    if b = 0x0D then ascii "\\r"
    else if b = 0x5C ∨ place ∈ alone then [0x5C, b]
    else [b]
  ascii "(" ++ escaped ++ ascii ")"

mutual

def render : Object → Bytes
  | null => ascii "null"
  | bool b => if b then ascii "true" else ascii "false"
  | integer n => Text.encode (Text.ofInt n)
  | real digits => digits
  | name n => ascii "/" ++ n
  | string content => quoteString content
  | array items => ascii "[" ++ renderItems true items ++ ascii "]"
  | dictionary entries => ascii "<<" ++ renderEntries entries ++ ascii ">>"
  | reference number => Text.encode (Text.ofNat number) ++ ascii " 0 R"

/-- The written forms of items; no space stands before the first. -/
def renderItems (isFirst : Bool) : List Object → Bytes
  | [] => []
  | item :: more =>
    (if isFirst then [] else item.spaceBefore) ++ render item ++ renderItems false more

def renderEntries : List (Bytes × Object) → Bytes
  | [] => []
  | (key, value) :: more =>
    ascii "/" ++ key ++ value.spaceBefore ++ render value ++ renderEntries more

end

def get? (o : Object) (key : String) : Option Object :=
  match o with
  | dictionary entries => entries.lookup (ascii key)
  | _ => none

end Object

def isSpace (b : UInt8) : Bool :=
  b = 0x00 || b = 0x09 || b = 0x0A || b = 0x0C || b = 0x0D || b = 0x20

def isDelimiter (b : UInt8) : Bool := b ∈ ascii "()<>[]\x7b\x7d/%"

def isRegular (b : UInt8) : Bool := !isSpace b && !isDelimiter b

def dropSpace (inComment : Bool) : Bytes → Bytes
  | [] => []
  | b :: rest =>
    if inComment then dropSpace (b ≠ 0x0A && b ≠ 0x0D) rest
    else if b = 0x25 then dropSpace true rest
    else if isSpace b then dropSpace false rest
    else b :: rest

def takeWord (s : Bytes) : Bytes × Bytes := s.span isRegular

def natural? (word : Bytes) : Option Nat :=
  (Text.decode? word).bind Text.toNat?

def number? (word : Bytes) : Option Object :=
  let (negative, digits) : Bool × Bytes := match word with
    | 0x2D :: rest => (true, rest)
    | 0x2B :: rest => (false, rest)
    | _ => (false, word)
  match natural? digits with
  | some n => some (.integer (if negative then -(n : Int) else n))
  | none =>
    let isDigit := fun b : UInt8 => 0x30 ≤ b ∧ b ≤ 0x39
    if digits.any isDigit ∧ digits.all (fun b => isDigit b ∨ b = 0x2E) ∧ digits.count 0x2E = 1 then
      some (.real word)
    else none

/-- Reads `n R` behind a number, which makes it a reference. -/
def takeReference? (s : Bytes) : Option Bytes :=
  let (generation, rest) := takeWord (dropSpace false s)
  match natural? generation with
  | none => none
  | some _ =>
    let (mark, rest) := takeWord (dropSpace false rest)
    if mark = ascii "R" then some rest else none

/-- Reads the rest of a string; `depth` parentheses are open. -/
def takeString : Nat → Bytes → Option (Bytes × Bytes)
  | _, [] => none
  | depth, 0x5C :: e :: rest =>
    let content : Bytes :=
      if e = 0x6E then [0x0A] else if e = 0x72 then [0x0D] else if e = 0x74 then [0x09]
      else if e = 0x62 then [0x08] else if e = 0x66 then [0x0C] else if e = 0x0A then [] else [e]
    (takeString depth rest).map fun (more, rest) => (content ++ more, rest)
  | depth, b :: rest =>
    if b = 0x28 then (takeString (depth + 1) rest).map fun (more, rest) => (b :: more, rest)
    else if b = 0x29 then
      match depth with
      | 0 => some ([], rest)
      | depth + 1 => (takeString depth rest).map fun (more, rest) => (b :: more, rest)
    else (takeString depth rest).map fun (more, rest) => (b :: more, rest)

mutual

def takeObject : Nat → Bytes → Option (Object × Bytes)
  | 0, _ => none
  | fuel + 1, s =>
    match dropSpace false s with
    | [] => none
    | 0x2F :: rest => let (name, rest) := takeWord rest; some (.name name, rest)
    | 0x28 :: rest => (takeString 0 rest).map fun (content, rest) => (.string content, rest)
    | 0x5B :: rest => (takeItems fuel rest).map fun (items, rest) => (.array items, rest)
    | 0x3C :: 0x3C :: rest =>
      (takeEntries fuel rest).map fun (entries, rest) => (.dictionary entries, rest)
    | s =>
      let (word, rest) := takeWord s
      if word = ascii "null" then some (.null, rest)
      else if word = ascii "true" then some (.bool true, rest)
      else if word = ascii "false" then some (.bool false, rest)
      else match natural? word with
        | some n => match takeReference? rest with
          | some rest => some (.reference n, rest)
          | none => some (.integer n, rest)
        | none => (number? word).map fun n => (n, rest)

def takeItems : Nat → Bytes → Option (List Object × Bytes)
  | 0, _ => none
  | fuel + 1, s =>
    match dropSpace false s with
    | 0x5D :: rest => some ([], rest)
    | s => do
      let (item, rest) ← takeObject fuel s
      let (items, rest) ← takeItems fuel rest
      pure (item :: items, rest)

def takeEntries : Nat → Bytes → Option (List (Bytes × Object) × Bytes)
  | 0, _ => none
  | fuel + 1, s =>
    match dropSpace false s with
    | 0x3E :: 0x3E :: rest => some ([], rest)
    | 0x2F :: rest => do
      let (key, rest) := takeWord rest
      let (value, rest) ← takeObject fuel rest
      let (entries, rest) ← takeEntries fuel rest
      pure ((key, value) :: entries, rest)
    | _ => none

end

def readObject (s : Bytes) : Option (Object × Bytes) := takeObject (s.length + 1) s

end PageQuery.Pdf
