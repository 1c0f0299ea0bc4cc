import PageQuery.Text.CaseTables
import PageQuery.Text.CharSet

/-!
Case folding: characters that differ in case only have the same folded form. It is the lower-case
form, but for a few characters that are themselves variants of a lower-case one.
-/
namespace PageQuery.Text

/-- Lower-case characters and those whose variants they are. -/
def variants : List (Nat × Nat) := [
  (0xB5, 0x3BC), (0x17F, 0x73), (0x345, 0x3B9), (0x3C2, 0x3C3), (0x3D0, 0x3B2), (0x3D1, 0x3B8),
  (0x3D5, 0x3C6), (0x3D6, 0x3C0), (0x3F0, 0x3BA), (0x3F1, 0x3C1), (0x3F5, 0x3B5), (0x1C80, 0x432),
  (0x1C81, 0x434), (0x1C82, 0x43E), (0x1C83, 0x441), (0x1C84, 0x442), (0x1C85, 0x442),
  (0x1C86, 0x44A), (0x1C87, 0x463), (0x1C88, 0xA64B), (0x1E9B, 0x1E61), (0x1FBE, 0x3B9),
  (0x1FD3, 0x390), (0x1FE3, 0x3B0), (0xFB06, 0xFB05)]

def CaseRange.numbers (r : CaseRange) : List Nat :=
  (List.range ((r.last - r.first) / r.stride + 1)).map fun k => r.first + k * r.stride

/-- The numbers that have a lower-case form of one character, each with the number of that form. -/
def loweredNumbers : List (Nat × Nat) :=
  lowerRanges.flatMap fun r => r.numbers.map fun (n : Nat) => (n, ((n : Int) + r.shift).toNat)

def foldedNumbers : List (Nat × Nat) :=
  loweredNumbers.map (fun (n, lower) => (n, (variants.lookup lower).getD lower)) ++ variants

/-- A set with every character that differs from a member in case only. -/
def folded (s : CharSet) : CharSet :=
  let forms := (foldedNumbers.filter fun (n, form) =>
    CharSet.covers s.intervals n || CharSet.covers s.intervals form).map (·.2)
  let others := foldedNumbers.filterMap fun (n, form) => if form ∈ forms then some n else none
  CharSet.normal ⟨s.intervals ++ (forms ++ others).map fun n => (n, n)⟩

end PageQuery.Text
