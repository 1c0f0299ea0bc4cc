/-!
Texts as lists of characters, and the list operations that the other modules share.
-/
namespace PageQuery

/-- A text is the list of its characters. -/
abbrev Text := List Char

instance : Coe String Text := ⟨String.toList⟩

/-- The pieces between the separators: one more piece than there are separators. -/
def pieces {α : Type} [DecidableEq α] (separator : α) : List α → List (List α)
  | [] => [[]]
  | a :: rest =>
    if a = separator then [] :: pieces separator rest
    else match pieces separator rest with
      | [] => [[a]]
      | piece :: more => (a :: piece) :: more

theorem pieces_ne_nil {α : Type} [DecidableEq α] (separator : α) (s : List α) :
    pieces separator s ≠ [] := by
  cases s with
  | nil => simp [pieces]
  | cons a rest =>
    simp only [pieces]
    split
    · simp
    · split <;> simp

theorem length_pieces {α : Type} [DecidableEq α] (separator : α) (s : List α) :
    (pieces separator s).length = s.count separator + 1 := by
  induction s with
  | nil => simp [pieces]
  | cons a rest ih =>
    have hne := pieces_ne_nil separator rest
    by_cases h : a = separator
    · simp [pieces, h, ih]
    · cases hp : pieces separator rest with
      | nil => exact absurd hp hne
      | cons piece more => simp [pieces, h, hp, ← ih]

/-- Cuts a list at the first occurrence of a separator, which belongs to neither part. -/
def cutAt? {α : Type} [DecidableEq α] (separator : α) : List α → Option (List α × List α)
  | [] => none
  | a :: rest =>
    if a = separator then some ([], rest)
    else (cutAt? separator rest).map fun (left, right) => (a :: left, right)

/-- Cuts a list at the last occurrence of a separator, which belongs to neither part. -/
def cutAtLast? {α : Type} [DecidableEq α] (separator : α) (s : List α) :
    Option (List α × List α) :=
  (cutAt? separator s.reverse).map fun (right, left) => (left.reverse, right.reverse)

/-- A list without the end that it is asked to have. -/
def stripEnd? {α : Type} [DecidableEq α] (ending s : List α) : Option (List α) :=
  if ending.isSuffixOf s then some (s.take (s.length - ending.length)) else none

/-- Whether a list stands inside another one as a run of neighbours. -/
def occursIn {α : Type} [DecidableEq α] (needle : List α) : List α → Bool
  | [] => needle.isEmpty
  | a :: rest => needle.isPrefixOf (a :: rest) || occursIn needle rest

/-- `occursIn` decides the infix order. -/
theorem occursIn_iff {α : Type} [DecidableEq α] (needle s : List α) :
    occursIn needle s = true ↔ needle <:+: s := by
  induction s with
  | nil => simp [occursIn, List.isEmpty_iff]
  | cons a rest ih =>
    simp only [occursIn, Bool.or_eq_true, List.isPrefixOf_iff_prefix, ih]
    rw [List.infix_cons_iff]

namespace Text

def ofNat (n : Nat) : Text := Nat.toDigits 10 n

/-- A natural number in decimal, filled up with leading zeros to a width. -/
def ofNatPadded (width n : Nat) : Text :=
  List.replicate (width - (ofNat n).length) '0' ++ ofNat n

def ofInt (n : Int) : Text := if n < 0 then '-' :: ofNat n.natAbs else ofNat n.natAbs

def ofNatHex (n : Nat) : Text := Nat.toDigits 16 n

def toNat? (t : Text) : Option Nat :=
  if t ≠ [] ∧ t.all Char.isDigit then some (Nat.ofDigitChars 10 t 0) else none

def joined (separator : Text) (parts : List Text) : Text := separator.intercalate parts

/-- A line without the carriage return that stood before its line feed. -/
def dropReturn (line : Text) : Text :=
  if line.getLast? = some '\r' then line.dropLast else line

/-- Cuts a text into lines: a line feed ends a line, with a carriage return before it. A last line
that no line feed ends is kept as it stands unless it is empty. -/
def lines (t : Text) : List Text :=
  let cut := pieces '\n' t
  cut.dropLast.map dropReturn ++ (cut.getLast?.filter (· ≠ [])).toList

end Text
end PageQuery
