import PageQuery.Json.Problem
import PageQuery.Text.Utf8
import PageQuery.Word

/-!
Numbers as they are written and the values they stand for. A number without fraction and exponent
that fits a word of 64 bits is an integer; every other one is a floating-point number, computed from
its first digits and a power of ten.
-/
namespace PageQuery.Json

open Text (Symbol)
open Decimal (Binary64 Magnitude)

structure Numeral where
  negative : Bool
  /-- The digits before the point. -/
  whole : Text
  /-- The digits after the point, if there is one. -/
  fraction : Option Text
  /-- Whether the exponent is negative, and its digits. -/
  exponent : Option (Bool × Text)
deriving DecidableEq, Repr

inductive Number where
  | integer (n : Int)
  | float (x : Binary64)
deriving DecidableEq, Repr

def Number.found : Number → Found
  | integer n => .integer n
  | float x => .float x

def takeDigits : List Symbol → Text × List Symbol
  | .char c :: rest =>
    if c.isDigit then
      let (digits, after) := takeDigits rest
      (c :: digits, after)
    else ([], .char c :: rest)
  | s => ([], s)

namespace Numeral

/-- The exponent at the front of symbols. An error tells whether the text ends there. -/
def takeExponent (s : List Symbol) : Except Bool (Option (Bool × Text) × List Symbol) :=
  match s with
  | .char c :: rest =>
    if c = 'e' ∨ c = 'E' then
      let (negative, rest) : Bool × List Symbol := match rest with
        | .char '-' :: rest => (true, rest)
        | .char '+' :: rest => (false, rest)
        | rest => (false, rest)
      match takeDigits rest with
      | ([], after) => .error after.isEmpty
      | (digits, after) => .ok (some (negative, digits), after)
    else .ok (none, s)
  | _ => .ok (none, s)

def takeFraction (s : List Symbol) : Except Bool (Option Text × List Symbol) :=
  match s with
  | .char '.' :: rest => match takeDigits rest with
    | ([], after) => .error after.isEmpty
    | (digits, after) => .ok (some digits, after)
  | _ => .ok (none, s)

/-- Reads the number at the front of symbols. No digit may follow a leading zero. An error tells
whether the text ends where a digit is due. -/
def take (s : List Symbol) : Except Bool (Numeral × List Symbol) :=
  let (negative, s) : Bool × List Symbol := match s with
    | .char '-' :: rest => (true, rest)
    | s => (false, s)
  match takeDigits s with
  | ([], after) => .error after.isEmpty
  | (whole, after) =>
    if whole.head? = some '0' ∧ whole.length ≠ 1 then .error false
    else do
      let (fraction, after) ← takeFraction after
      let (exponent, after) ← takeExponent after
      pure (⟨negative, whole, fraction, exponent⟩, after)

/-- Appends digits to a number as long as it stays below the bound; the rest are left over. -/
def appendDigits : Nat → Text → Nat × Text
  | n, [] => (n, [])
  | n, c :: rest =>
    let n' := n * 10 + (c.toNat - '0'.toNat)
    if n' < Word.bound64 then appendDigits n' rest else (n, c :: rest)

/-- Multiplies by a power of ten in steps of at most 308 places. A value past the greatest number is
refused, one below the least is zero. -/
def scale (f : Magnitude) (exponent : Int) : Except Problem Magnitude :=
  if exponent.natAbs ≤ 308 then
    let power := Magnitude.nearest (Decimal.pow10 exponent.natAbs) 1
    if 0 ≤ exponent then
      let product := f.mul power
      if product = .infinite then .error .numberOutOfRange else .ok product
    else .ok (f.div power)
  else if f.isZero then .ok f
  else if 0 ≤ exponent then .error .numberOutOfRange
  else scale (f.div (.nearest (Decimal.pow10 308) 1)) (exponent + 308)
termination_by exponent.natAbs
decreasing_by omega

/-- The greatest power of ten that an exponent is read up to. -/
def exponentLimit : Nat := 0x7FFFFFFF

def toFloat (significant : Nat) (places : Int) (exponent : Option (Bool × Text)) :
    Except Problem Magnitude :=
  let f := Magnitude.nearest significant 1
  match exponent with
  | none => scale f places
  | some (negative, digits) =>
    let written := Nat.ofDigitChars 10 digits 0
    if exponentLimit < written then
      if significant ≠ 0 ∧ !negative then .error .numberOutOfRange else .ok .zero
    else
      let sum := if negative then places - written else places + written
      scale f (max (-(exponentLimit : Int) - 1) (min sum exponentLimit))

def value (n : Numeral) : Except Problem Number :=
  let (significant, left) := appendDigits 0 n.whole
  let places : Int := left.length
  match n.fraction, n.exponent, left with
  | none, none, [] =>
    if !n.negative then .ok (.integer significant)
    else if 0 < significant ∧ 2 * significant ≤ Word.bound64 then
      .ok (.integer (-(significant : Int)))
    else .ok (.float ⟨true, .nearest significant 1⟩)
  | fraction, exponent, _ =>
    let digits := fraction.getD []
    let (significant, unused) := appendDigits significant digits
    let places := places - ((digits.length - unused.length : Nat) : Int)
    (toFloat significant places exponent).map fun m => .float ⟨n.negative, m⟩

end Numeral
end PageQuery.Json
