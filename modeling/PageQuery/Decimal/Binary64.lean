/-!
Binary floating-point numbers of 64 bits as exact values: a mantissa below `2 ^ 53` times a power of
two. Every operation rounds the exact result to the nearest number, a half to the even mantissa.
-/
namespace PageQuery.Decimal

def pow2 (n : Nat) : Nat := Nat.pow 2 n

def pow10 (n : Nat) : Nat := Nat.pow 10 n

inductive Magnitude where
  /-- `mantissa * 2 ^ exponent`. -/
  | finite (mantissa : Nat) (exponent : Int)
  | infinite
deriving DecidableEq, Repr

/-- A floating-point number with its sign, which zero has too. -/
structure Binary64 where
  negative : Bool
  magnitude : Magnitude
deriving DecidableEq, Repr

def minExponent : Int := -1074

def maxExponent : Int := 971

/-- The integer nearest to a fraction, a half to the even one. -/
def roundToEven (num den : Nat) : Nat :=
  let q := num / den
  let r := num % den
  if den < 2 * r ∨ (2 * r = den ∧ q % 2 = 1) then q + 1 else q

def scaleByTwo (num den : Nat) (exponent : Int) : Nat × Nat :=
  if 0 ≤ exponent then (num * pow2 exponent.toNat, den) else (num, den * pow2 (-exponent).toNat)

namespace Magnitude

def zero : Magnitude := .finite 0 minExponent

def isZero : Magnitude → Bool
  | finite m _ => m = 0
  | infinite => false

def nearest (num den : Nat) : Magnitude :=
  if num = 0 then zero
  else
    let guess : Int := (num.log2 : Int) - (den.log2 : Int) - 53
    let (a, b) := scaleByTwo num den (-guess)
    let exponent := max (if a / b < pow2 53 then guess else guess + 1) minExponent
    let (a, b) := scaleByTwo num den (-exponent)
    let m := roundToEven a b
    let (m, exponent) := if m = pow2 53 then (pow2 52, exponent + 1) else (m, exponent)
    if maxExponent < exponent then infinite else .finite m exponent

def toFraction? : Magnitude → Option (Nat × Nat)
  | finite m e => some (scaleByTwo m 1 e)
  | infinite => none

/-- Combines two finite values by an operation on fractions, and rounds. -/
def combine (f : Nat × Nat → Nat × Nat → Nat × Nat) (x y : Magnitude) : Magnitude :=
  match x.toFraction?, y.toFraction? with
  | some a, some b => let (num, den) := f a b; nearest num den
  | _, _ => infinite

def mul : Magnitude → Magnitude → Magnitude :=
  combine fun (a, b) (c, d) => (a * c, b * d)

/-- The quotient by a number that is not zero. -/
def div : Magnitude → Magnitude → Magnitude :=
  combine fun (a, b) (c, d) => (a * d, b * c)

end Magnitude
end PageQuery.Decimal
