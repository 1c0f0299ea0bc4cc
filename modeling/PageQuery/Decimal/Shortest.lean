import PageQuery.Decimal.Binary64
import PageQuery.Text.Basic

/-!
The shortest decimal that is read back as a given floating-point number, and its written form.
-/
namespace PageQuery.Decimal

/-- A decimal `digits * 10 ^ exponent`. -/
structure Scientific where
  digits : Nat
  exponent : Int
deriving DecidableEq, Repr

/-- Twice the value and the values halfway to its neighbours, over one denominator. -/
structure Rounding where
  value : Nat
  low : Nat
  high : Nat
  den : Nat
  /-- Whether the halves themselves round to the value. -/
  closed : Bool

/-- The values that round to a finite number. Below a power of two numbers lie twice as dense. -/
def Rounding.of (mantissa : Nat) (exponent : Int) : Rounding :=
  let tight := mantissa = pow2 52 ∧ minExponent < exponent
  let (unit, den) := scaleByTwo 1 4 exponent
  { value := 4 * mantissa * unit
    low := (4 * mantissa - if tight then 1 else 2) * unit
    high := (4 * mantissa + 2) * unit
    den
    closed := mantissa % 2 = 0 }

/-- Whether a decimal on the grid of `10 ^ exponent` rounds to the value. -/
def Rounding.admits (r : Rounding) (digits : Nat) (exponent : Int) : Bool :=
  let (a, b) :=
    if 0 ≤ exponent then (digits * pow10 exponent.toNat * r.den, 1)
    else (digits * r.den, pow10 (-exponent).toNat)
  if r.closed then r.low * b ≤ a && a ≤ r.high * b else r.low * b < a && a < r.high * b

def Rounding.onGrid (r : Rounding) (exponent : Int) : Nat × Nat :=
  if 0 ≤ exponent then (r.value, r.den * pow10 exponent.toNat)
  else (r.value * pow10 (-exponent).toNat, r.den)

/-- The neighbour of the value on a grid that rounds to it, the nearer one if both do. -/
def Rounding.onGrid? (r : Rounding) (exponent : Int) : Option Nat :=
  let (num, den) := r.onGrid exponent
  let below := num / den
  let near := roundToEven num den
  let far := if near = below then below + 1 else below
  if r.admits near exponent then some near
  else if r.admits far exponent then some far
  else none

def leadingExponent (num den : Nat) : Int :=
  if den ≤ num then ((Nat.toDigits 10 (num / den)).length : Int) - 1
  else - (((List.range 400).findIdx fun k => den ≤ num * pow10 k) : Int)

def shortest (mantissa : Nat) (exponent : Int) : Scientific :=
  let r := Rounding.of mantissa exponent
  let lead := leadingExponent r.value r.den
  let grids := (List.range 17).map fun n : Nat => lead - (n : Int)
  match grids.findSome? fun e => (r.onGrid? e).map fun d => Scientific.mk d e with
  | some d => d
  | none => ⟨mantissa, 0⟩

def significant (digits : Text) : Text := (digits.reverse.dropWhile (· = '0')).reverse

/-- How numbers are written: without an exponent while the first digit stands at one of these powers
of ten. -/
structure NumberFormat where
  leastPlain : Int
  greatestPlain : Int

/-- Plain from `0.00001` up to sixteen digits. -/
def messageFormat : NumberFormat := ⟨-5, 15⟩

def NumberFormat.write (n : NumberFormat) (digits : Text) (lead : Int) : Text :=
  if n.leastPlain ≤ lead ∧ lead ≤ n.greatestPlain then
    if lead < 0 then "0." ++ List.replicate (-lead - 1).toNat '0' ++ digits
    else
      let whole := lead.toNat + 1
      let padded := digits ++ List.replicate (whole - digits.length) '0'
      let fraction := padded.drop whole
      padded.take whole ++ '.' :: (if fraction = [] then ['0'] else fraction)
  else
    let fraction := digits.drop 1
    digits.take 1 ++ (if fraction = [] then [] else '.' :: fraction) ++ 'e' ::
      (if lead < 0 then '-' else '+') :: Text.ofNat lead.natAbs

def Binary64.render (x : Binary64) : Text :=
  let sign : Text := if x.negative then "-" else ""
  match x.magnitude with
  | .infinite => sign ++ "inf"
  | .finite 0 _ => sign ++ "0.0"
  | .finite m e =>
    let d := shortest m e
    let digits := Text.ofNat d.digits
    sign ++ messageFormat.write (significant digits) (d.exponent + digits.length - 1)

end PageQuery.Decimal
