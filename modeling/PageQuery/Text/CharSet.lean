import PageQuery.Text.Basic

/-!
Sets of characters as intervals of their numbers.
-/
namespace PageQuery

structure CharSet where
  intervals : List (Nat × Nat)
deriving DecidableEq, Repr

namespace CharSet

def covers (intervals : List (Nat × Nat)) (n : Nat) : Bool :=
  intervals.any fun (first, last) => first ≤ n && n ≤ last

def contains (s : CharSet) (c : Char) : Bool := covers s.intervals c.toNat

def empty : CharSet := ⟨[]⟩

def greatest : Nat := 0x10FFFF

def all : CharSet := ⟨[(0, greatest)]⟩

def range (first last : Char) : CharSet := ⟨[(first.toNat, last.toNat)]⟩

def single (c : Char) : CharSet := range c c

def ofText (t : Text) : CharSet := ⟨t.map fun c => (c.toNat, c.toNat)⟩

def union (s t : CharSet) : CharSet := ⟨s.intervals ++ t.intervals⟩

def meet? (a b : Nat × Nat) : Option (Nat × Nat) :=
  let first := max a.1 b.1
  let last := min a.2 b.2
  if first ≤ last then some (first, last) else none

def inter (s t : CharSet) : CharSet :=
  ⟨s.intervals.flatMap fun a => t.intervals.filterMap (meet? a)⟩

def without (a b : Nat × Nat) : List (Nat × Nat) :=
  if a.2 < b.1 ∨ b.2 < a.1 then [a]
  else
    let before := if a.1 < b.1 then [(a.1, b.1 - 1)] else []
    let behind := if b.2 < a.2 then [(b.2 + 1, a.2)] else []
    before ++ behind

def diff (s t : CharSet) : CharSet :=
  ⟨t.intervals.foldl (fun left b => left.flatMap (without · b)) s.intervals⟩

def compl (s : CharSet) : CharSet := all.diff s

def symmDiff (s t : CharSet) : CharSet := (s.diff t).union (t.diff s)

def unions (sets : List CharSet) : CharSet := ⟨sets.flatMap (·.intervals)⟩

/-- Puts intervals together that touch; they come in the order of their starts. -/
def joinTouching (a : Nat × Nat) : List (Nat × Nat) → List (Nat × Nat)
  | [] => [a]
  | b :: more =>
    if b.1 ≤ a.2 + 1 then joinTouching (a.1, max a.2 b.2) more else a :: joinTouching b more

/-- The same set with the fewest intervals, in rising order. -/
def normal (s : CharSet) : CharSet :=
  match s.intervals.mergeSort fun a b => a.1 ≤ b.1 with
  | [] => empty
  | a :: more => ⟨joinTouching a more⟩

def hexNumber (digits : Text) : Nat := digits.foldl (fun n c =>
  n * 16 + (if c.isDigit then c.toNat - '0'.toNat else c.toNat - 'A'.toNat + 10)) 0

/-- The interval that a word of a table writes: one number, or the first and the last. -/
def intervalOf (word : Text) : Nat × Nat :=
  match cutAt? '-' word with
  | some (first, last) => (hexNumber first, hexNumber last)
  | none => (hexNumber word, hexNumber word)

/-- Reads the rows of a table: words with blanks between them. -/
def ofRows (rows : List String) : CharSet :=
  ⟨rows.flatMap fun row => (pieces ' ' row.toList).map intervalOf⟩

end CharSet
end PageQuery
