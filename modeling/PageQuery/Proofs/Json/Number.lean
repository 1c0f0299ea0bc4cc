import Mathlib.Data.List.Basic
import PageQuery.Json.Value
import PageQuery.Proofs.Except

/-!
Numbers of the data format read back as they are written, if what follows cannot belong to them.
-/
namespace PageQuery.Json

open Text (Symbol)

/-- At least one digit. -/
structure IsDigits (w : Text) : Prop where
  ne_nil : w ≠ []
  isDigit : ∀ c ∈ w, c.isDigit = true

/-- No character of a class comes first. -/
def StartsOutside (p : Char → Prop) (s : List Symbol) : Prop :=
  ∀ c, s.head? = some (.char c) → ¬ p c

/-- A character that can stand in a number behind its first digit. -/
def ContinuesNumber (c : Char) : Prop := c.isDigit = true ∨ c = '.' ∨ c = 'e' ∨ c = 'E'

instance (c : Char) : Decidable (ContinuesNumber c) := inferInstanceAs (Decidable (_ ∨ _))

/-- What stands behind a number does not continue it. -/
abbrev EndsNumber (s : List Symbol) : Prop := StartsOutside ContinuesNumber s

theorem StartsOutside.mono {p q : Char → Prop} {s : List Symbol} (h : StartsOutside q s)
    (hpq : ∀ c, p c → q c) : StartsOutside p s := fun c hc hp => h c hc (hpq c hp)

theorem startsOutside_cons {p : Char → Prop} {c : Char} {s : List Symbol} :
    StartsOutside p (.char c :: s) ↔ ¬ p c := by
  simp [StartsOutside]

theorem endsNumber_nil : EndsNumber [] := fun _ h => nomatch h

theorem takeDigits_of_startsOutside {s : List Symbol} (h : StartsOutside (·.isDigit = true) s) :
    takeDigits s = ([], s) := by
  match s with
  | [] | .stray _ :: _ => rfl
  | .char c :: rest => rw [takeDigits, if_neg (startsOutside_cons.mp h)]

theorem takeDigits_append {w : Text} (hw : ∀ c ∈ w, c.isDigit = true) {rest : List Symbol}
    (h : StartsOutside (·.isDigit = true) rest) : takeDigits (symbolsOf w ++ rest) = (w, rest) := by
  induction w with
  | nil => exact takeDigits_of_startsOutside h
  | cons c w ih =>
    rw [symbolsOf_cons, List.cons_append, takeDigits,
      if_pos (hw c List.mem_cons_self), ih fun d hd => hw d (List.mem_cons_of_mem c hd)]

namespace Numeral

/-- How the fraction of a number is written. -/
inductive FractionSpells : Text → Option Text → Prop where
  | none : FractionSpells [] none
  | some {digits : Text} (h : IsDigits digits) : FractionSpells ('.' :: digits) (some digits)

/-- How the exponent of a number is written. -/
inductive ExponentSpells : Text → Option (Bool × Text) → Prop where
  | none : ExponentSpells [] none
  | unsigned {e : Char} {digits : Text} (he : e = 'e' ∨ e = 'E') (h : IsDigits digits) :
      ExponentSpells (e :: digits) (some (false, digits))
  | signed {e : Char} {digits : Text} {negative : Bool} (he : e = 'e' ∨ e = 'E')
      (h : IsDigits digits) :
      ExponentSpells (e :: (if negative then '-' else '+') :: digits) (some (negative, digits))

/-- How a number is written: no digit follows a leading zero. -/
inductive Spells : Text → Numeral → Prop where
  | mk {negative : Bool} {whole f e : Text} {fraction : Option Text}
      {exponent : Option (Bool × Text)} (hwhole : IsDigits whole)
      (hzero : whole.head? = some '0' → whole.length = 1) (hfraction : FractionSpells f fraction)
      (hexponent : ExponentSpells e exponent) :
      Spells ((if negative then ['-'] else []) ++ (whole ++ (f ++ e)))
        ⟨negative, whole, fraction, exponent⟩

theorem takeFraction_spells {w : Text} {fraction : Option Text} (h : FractionSpells w fraction)
    {rest : List Symbol} (hrest : StartsOutside (fun c => c.isDigit = true ∨ c = '.') rest) :
    takeFraction (symbolsOf w ++ rest) = .ok (fraction, rest) := by
  cases h with
  | none =>
    match rest with
    | [] | .stray _ :: _ => rfl
    | .char c :: rest =>
      have hpoint : c ≠ '.' := fun h => startsOutside_cons.mp hrest (.inr h)
      simp [takeFraction, hpoint]
  | some h =>
    rw [symbolsOf_cons, List.cons_append, takeFraction,
      takeDigits_append h.isDigit (hrest.mono fun c => .inl)]
    simp [h.ne_nil]

theorem takeExponent_spells {w : Text} {exponent : Option (Bool × Text)}
    (h : ExponentSpells w exponent) {rest : List Symbol} (hrest : EndsNumber rest) :
    takeExponent (symbolsOf w ++ rest) = .ok (exponent, rest) := by
  have hdigits {digits : Text} (h : IsDigits digits) :
      takeDigits (symbolsOf digits ++ rest) = (digits, rest) :=
    takeDigits_append h.isDigit (hrest.mono fun c => .inl)
  cases h with
  | none =>
    match rest with
    | [] | .stray _ :: _ => rfl
    | .char c :: rest => exact if_neg fun he => startsOutside_cons.mp hrest (.inr (.inr he))
  | @unsigned e digits he h =>
    obtain ⟨d, more, rfl⟩ := List.exists_cons_of_ne_nil h.ne_nil
    have hd : d ≠ '-' ∧ d ≠ '+' := by
      constructor <;> (rintro rfl; exact absurd (h.isDigit _ List.mem_cons_self) (by decide))
    have htake := hdigits h
    simp only [symbolsOf_cons, List.cons_append] at htake ⊢
    simp [takeExponent, he, hd, htake]
  | @signed e digits negative he h =>
    have htake := hdigits h
    cases negative <;> simp [takeExponent, he, h.ne_nil, htake]

theorem ExponentSpells.startsOutside {w : Text} {exponent : Option (Bool × Text)}
    (h : ExponentSpells w exponent) {rest : List Symbol} (hrest : EndsNumber rest) :
    StartsOutside (fun c => c.isDigit = true ∨ c = '.') (symbolsOf w ++ rest) := by
  cases h with
  | none =>
    refine hrest.mono fun c hc => ?_
    rcases hc with hc | hc
    · exact .inl hc
    · exact .inr (.inl hc)
  | unsigned he _ | signed he _ =>
    rw [symbolsOf_cons, List.cons_append, startsOutside_cons]
    rcases he with rfl | rfl <;> decide

theorem FractionSpells.startsOutside {w : Text} {fraction : Option Text}
    (h : FractionSpells w fraction) {rest : List Symbol}
    (hrest : StartsOutside (·.isDigit = true) rest) :
    StartsOutside (·.isDigit = true) (symbolsOf w ++ rest) := by
  cases h with
  | none => exact hrest
  | some _ =>
    rw [symbolsOf_cons, List.cons_append, startsOutside_cons]
    decide

/-- A number is read up to what cannot belong to it. -/
theorem take_spells {w : Text} {n : Numeral} (h : Spells w n) {rest : List Symbol}
    (hrest : EndsNumber rest) : take (symbolsOf w ++ rest) = .ok (n, rest) := by
  obtain @⟨negative, whole, f, e, fraction, exponent, hwhole, hzero, hfraction, hexponent⟩ := h
  have hend := hexponent.startsOutside hrest
  have hdigits :=
    takeDigits_append hwhole.isDigit (hfraction.startsOutside (hend.mono fun c => .inl))
  obtain ⟨d, more, rfl⟩ := List.exists_cons_of_ne_nil hwhole.ne_nil
  have hsign : d ≠ '-' := by
    rintro rfl
    exact absurd (hwhole.isDigit _ List.mem_cons_self) (by decide)
  have hleading : d = '0' → more = [] := by simpa using hzero
  simp only [symbolsOf_cons, List.cons_append] at hdigits
  cases negative <;>
    simpa [take, hsign, hdigits, takeFraction_spells hfraction hend,
      takeExponent_spells hexponent hrest] using hleading

/-! ### Natural numbers -/

theorem le_ofDigitChars (digits : Text) (n : Nat) : n ≤ Nat.ofDigitChars 10 digits n := by
  induction digits generalizing n with
  | nil => exact Nat.le_refl n
  | cons c rest ih =>
    rw [Nat.ofDigitChars_cons]
    have hstep := ih (10 * n + (c.toNat - '0'.toNat))
    omega

theorem appendDigits_of_lt {digits : Text} {n : Nat}
    (h : Nat.ofDigitChars 10 digits n < Word.bound64) :
    appendDigits n digits = (Nat.ofDigitChars 10 digits n, []) := by
  induction digits generalizing n with
  | nil => rfl
  | cons c rest ih =>
    rw [Nat.ofDigitChars_cons, Nat.mul_comm] at h
    have hstep := le_ofDigitChars rest (n * 10 + (c.toNat - '0'.toNat))
    rw [appendDigits, if_pos (by omega), ih h, Nat.ofDigitChars_cons, Nat.mul_comm 10]

theorem value_of_lt {whole : Text} (h : Nat.ofDigitChars 10 whole 0 < Word.bound64) :
    value ⟨false, whole, none, none⟩ = .ok (.integer (Nat.ofDigitChars 10 whole 0 : Nat)) := by
  rw [value, appendDigits_of_lt h]
  rfl

theorem eq_of_appendDigits {digits : Text} {n m : Nat} (hn : n < Word.bound64)
    (h : appendDigits n digits = (m, [])) :
    Nat.ofDigitChars 10 digits n = m ∧ m < Word.bound64 := by
  induction digits generalizing n with
  | nil =>
    cases h
    exact ⟨rfl, hn⟩
  | cons c rest ih =>
    rw [appendDigits] at h
    split at h
    · next hroom =>
      rw [Nat.ofDigitChars_cons, Nat.mul_comm]
      exact ih hroom h
    · cases h

/-- Only a number without a sign, a fraction and an exponent is a natural number. -/
theorem value_eq_integer_iff {numeral : Numeral} {n : Nat} :
    numeral.value = .ok (.integer n) ↔
      ∃ whole, numeral = ⟨false, whole, none, none⟩ ∧ Nat.ofDigitChars 10 whole 0 = n ∧
        n < Word.bound64 := by
  constructor
  · intro h
    obtain ⟨negative, whole, fraction, exponent⟩ := numeral
    rw [value] at h
    rcases hdigits : appendDigits 0 whole with ⟨significant, left⟩
    simp only [hdigits] at h
    split at h
    · obtain ⟨rfl, hlt⟩ := eq_of_appendDigits (by decide) hdigits
      cases negative with
      | false =>
        simp only [Bool.not_false, if_true, Except.ok.injEq, Number.integer.injEq] at h
        obtain rfl := Int.ofNat_inj.mp h
        exact ⟨whole, rfl, rfl, hlt⟩
      | true =>
        simp only [Bool.not_true, Bool.false_eq_true, if_false] at h
        split at h
        · simp only [Except.ok.injEq, Number.integer.injEq] at h
          omega
        · cases h
    · obtain ⟨m, -, hm⟩ := Except.map_eq_ok_iff.mp h
      cases hm
  · rintro ⟨whole, rfl, rfl, hlt⟩
    exact value_of_lt hlt

theorem spells_whole {whole : Text} (hwhole : IsDigits whole)
    (hzero : whole.head? = some '0' → whole.length = 1) :
    Spells whole ⟨false, whole, none, none⟩ := by
  have h : Spells ((if false then ['-'] else []) ++ (whole ++ ([] ++ []))) _ :=
    .mk hwhole hzero .none .none
  simpa using h

theorem head?_toDigits_ne_zero {n : Nat} (h : 0 < n) : (Nat.toDigits 10 n).head? ≠ some '0' := by
  induction n using Nat.strongRecOn with
  | ind n ih =>
    rw [Nat.toDigits_eq_if (by decide)]
    split
    · next hsmall =>
      have hdigit : ∀ d < 10, 0 < d → Nat.digitChar d ≠ '0' := by decide
      simpa using hdigit n hsmall h
    · rw [List.head?_append_of_ne_nil _ Nat.toDigits_ne_nil]
      exact ih (n / 10) (by omega) (by omega)

theorem isDigits_ofNat (n : Nat) : IsDigits (Text.ofNat n) where
  ne_nil := Nat.toDigits_ne_nil
  isDigit c hc := Nat.isDigit_of_mem_toDigits (by decide) (by decide) hc

/-- A natural number is written without a leading zero. -/
theorem spells_ofNat (n : Nat) : Spells (Text.ofNat n) ⟨false, Text.ofNat n, none, none⟩ := by
  refine spells_whole (isDigits_ofNat n) fun hhead => ?_
  rcases Nat.eq_zero_or_pos n with rfl | hpos
  · rfl
  · exact absurd hhead (head?_toDigits_ne_zero hpos)

end Numeral
end PageQuery.Json
