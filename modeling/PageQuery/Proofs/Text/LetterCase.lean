import Mathlib.Tactic.SplitIfs
import PageQuery.Proofs.Text.Casing

/-!
Letter case that lower-casing removes. A lower-cased text stays as it is when it is lower-cased again,
and the case of ASCII letters makes no difference, not even to a capital sigma near them.
-/
namespace PageQuery.Text

/-! ### Lower-casing twice -/

namespace CaseRange

/-- Whether no character that a row leads to has an entry in another row: they lie before the first
entry, behind the last one, or in the gaps between entries. -/
def misses (r row : CaseRange) : Bool :=
  let first := (r.first + r.shift).toNat
  Nat.blt (r.last + r.shift).toNat row.first || Nat.blt row.last first ||
    (r.stride % 2 == 0 || r.first == r.last) && row.stride == 2 && (first % 2 != row.first % 2)

theorem covers_iff {r : CaseRange} {n : Nat} :
    r.covers n = true ↔ r.first ≤ n ∧ n ≤ r.last ∧ (n - r.first) % r.stride = 0 := by
  simp [covers, and_assoc]

theorem not_covers_of_misses {r row : CaseRange} (h : r.misses row = true)
    (hpos : 0 < r.first + r.shift) {n : Nat} (hn : r.covers n = true) :
    row.covers (n + r.shift).toNat = false := by
  obtain ⟨hfirst, hlast, hstride⟩ := covers_iff.mp hn
  rw [← Bool.not_eq_true, covers_iff]
  rintro ⟨hrowFirst, hrowLast, hrowStride⟩
  simp only [misses, Bool.or_eq_true, Bool.and_eq_true, Nat.blt_eq, beq_iff_eq, bne_iff_ne] at h
  rcases h with (h | h) | ⟨⟨hr, hrow⟩, hparity⟩
  · omega
  · omega
  · rw [hrow] at hrowStride
    have heven : (n - r.first) % 2 = 0 := by
      rcases hr with hr | hr
      · exact Nat.mod_eq_zero_of_dvd
          (Nat.dvd_trans (Nat.dvd_of_mod_eq_zero hr) (Nat.dvd_of_mod_eq_zero hstride))
      · omega
    omega

end CaseRange

private theorem lowerRanges_miss : (lowerRanges.all fun r => lowerRanges.all r.misses) = true := by
  decide +kernel

private theorem lowerRanges_lead_on : ∀ r ∈ lowerRanges,
    0 < r.first + r.shift ∧ r.covers 0 = false ∧
      (('İ'.toNat : Int) < r.first + r.shift ∨ r.last + r.shift < 'İ'.toNat) := by
  decide +kernel

/-- The lower-case form of a character has no other lower-case form. -/
theorem lowerChar_lowerChar (c : Char) : lowerChar (lowerChar c) = lowerChar c := by
  rcases lowerChar_cases c with ⟨r, hr, hcov, heq⟩ | ⟨-, heq⟩
  · apply lowerChar_of_not_covered
    intro row hrow
    have hmiss : r.misses row = true :=
      List.all_eq_true.mp (List.all_eq_true.mp lowerRanges_miss r hr) row hrow
    rw [heq]
    rcases toNat_ofNat_cases (c.toNat + r.shift).toNat with hn | hn
    · rw [hn]
      exact CaseRange.not_covers_of_misses hmiss (lowerRanges_lead_on r hr).1 hcov
    · rw [hn]
      exact (lowerRanges_lead_on row hrow).2.1
  · rw [heq, heq]

theorem lowerChar_ne_sigma (c : Char) : lowerChar c ≠ 'Σ' := by
  intro heq
  have hfixed := lowerChar_lowerChar c
  rw [heq] at hfixed
  exact absurd hfixed (by decide)

/-- The capital I with a dot is the lower-case form of no other character. -/
theorem eq_dotted_of_lowerChar_eq {c : Char} (h : lowerChar c = 'İ') : c = 'İ' :=
  eq_of_lowerChar_eq (by decide) (fun r hr => (lowerRanges_lead_on r hr).2.2) h

/-- A character that lower-casing leaves alone, whatever stands around it. -/
def IsLower (c : Char) : Prop := ∀ before after, lowerAt before c after = [c]

theorem isLower_of_lowerChar {c : Char} (hsigma : c ≠ 'Σ') (hdot : c ≠ 'İ')
    (h : lowerChar c = c) : IsLower c := by
  intro before after
  rw [lowerAt, if_neg hsigma, if_neg hdot, h]

/-- The lower-case forms that no row gives. -/
def specialForms : Text := ['ς', 'σ', 'i', '\u0307']

theorem isLower_of_mem_specialForms {c : Char} (h : c ∈ specialForms) : IsLower c := by
  have hall : (specialForms.all fun c => c ≠ 'Σ' && c ≠ 'İ' && lowerChar c = c) = true := by decide
  have hc := List.all_eq_true.mp hall c h
  simp only [Bool.and_eq_true, decide_eq_true_eq] at hc
  exact isLower_of_lowerChar hc.1.1 hc.1.2 hc.2

theorem isLower_of_mem_lowerAt {before after : Text} {c d : Char}
    (h : d ∈ lowerAt before c after) : IsLower d := by
  unfold lowerAt at h
  split_ifs at h with hsigma hfinal hdot
  · exact isLower_of_mem_specialForms (by simp_all [specialForms])
  · exact isLower_of_mem_specialForms (by simp_all [specialForms])
  · exact isLower_of_mem_specialForms (by simp_all [specialForms])
  · rw [List.mem_singleton.mp h]
    have hne : lowerChar c ≠ 'İ' := fun heq => hdot (eq_dotted_of_lowerChar_eq heq)
    exact isLower_of_lowerChar (lowerChar_ne_sigma c) hne (lowerChar_lowerChar c)

theorem isLower_of_mem_lowerFrom {before t : Text} {c : Char} (h : c ∈ lowerFrom before t) :
    IsLower c := by
  induction t generalizing before with
  | nil => cases h
  | cons d rest ih =>
    rcases List.mem_append.mp h with hhead | htail
    · exact isLower_of_mem_lowerAt hhead
    · exact ih htail

theorem lowerFrom_of_forall_isLower {t : Text} (h : ∀ c ∈ t, IsLower c) (before : Text) :
    lowerFrom before t = t := by
  induction t generalizing before with
  | nil => rfl
  | cons c rest ih =>
    obtain ⟨hc, hrest⟩ := List.forall_mem_cons.mp h
    rw [lowerFrom, hc, ih hrest, List.singleton_append]

/-- A lower-cased text is in lower case. -/
theorem lower_lower (t : Text) : lower (lower t) = lower t :=
  lowerFrom_of_forall_isLower (fun _ hc => isLower_of_mem_lowerFrom hc) []

/-! ### ASCII letters -/

private theorem letters_not_ignorable :
    (caseIgnorableIntervals.all fun i => Nat.blt 90 i.1 || Nat.blt i.2 65) = true ∧
      (caseIgnorableIntervals.all fun i => Nat.blt 122 i.1 || Nat.blt i.2 97) = true := by
  decide +kernel

private theorem capital_toLower : ∀ k < 26,
    let c := Char.ofNat (65 + k)
    c.toLower.toNat = 97 + k ∧ isCased c.toLower = isCased c ∧ lowerChar c = c.toLower := by
  decide +kernel

private theorem letters_toLower : ∀ k < 26,
    (Char.ofNat (65 + k)).toLower.toLower = (Char.ofNat (65 + k)).toLower ∧
      (Char.ofNat (97 + k)).toUpper.toLower = (Char.ofNat (97 + k)).toLower := by
  decide +kernel

-- no module of the library that can be imported by itself has the following facts
theorem isUpper_iff {c : Char} : c.isUpper = true ↔ 65 ≤ c.toNat ∧ c.toNat ≤ 90 := by
  refine decide_eq_true_iff.trans ?_
  simp [UInt32.le_iff_toNat_le]

theorem toLower_of_not_isUpper {c : Char} (h : ¬ c.isUpper = true) : c.toLower = c :=
  dif_neg fun hrange => h (decide_eq_true hrange)

theorem toLower_toLower (c : Char) : c.toLower.toLower = c.toLower := by
  by_cases hupper : c.isUpper = true
  · have hrange := isUpper_iff.mp hupper
    obtain ⟨k, hk⟩ : ∃ k, c.toNat = 65 + k := Nat.exists_eq_add_of_le hrange.1
    have hletter := (letters_toLower k (by omega)).1
    rwa [← hk, Char.ofNat_toNat] at hletter
  · rw [toLower_of_not_isUpper hupper, toLower_of_not_isUpper hupper]

theorem toLower_toUpper (c : Char) : c.toUpper.toLower = c.toLower := by
  by_cases hlower : 97 ≤ c.toNat ∧ c.toNat ≤ 122
  · obtain ⟨k, hk⟩ : ∃ k, c.toNat = 97 + k := Nat.exists_eq_add_of_le hlower.1
    have hletter := (letters_toLower k (by omega)).2
    rwa [← hk, Char.ofNat_toNat] at hletter
  · have hstay : c.toUpper = c :=
      dif_neg fun hrange => hlower (by simpa [UInt32.le_iff_toNat_le] using hrange)
    rw [hstay]

/-- All that lower-casing looks at is the same of a capital ASCII letter and of the small one. -/
theorem toLower_alike (c : Char) :
    isCased c.toLower = isCased c ∧ isCaseIgnorable c.toLower = isCaseIgnorable c ∧
      lowerChar c.toLower = lowerChar c ∧ (c.toLower = 'Σ' ↔ c = 'Σ') ∧
      (c.toLower = 'İ' ↔ c = 'İ') := by
  by_cases hupper : c.isUpper = true
  · have hrange := isUpper_iff.mp hupper
    obtain ⟨k, hk⟩ : ∃ k, c.toNat = 65 + k := Nat.exists_eq_add_of_le hrange.1
    have hcapital := capital_toLower k (by omega)
    rw [← hk, Char.ofNat_toNat] at hcapital
    obtain ⟨hnumber, hcased, hlower⟩ := hcapital
    have hignorable : isCaseIgnorable c = false :=
      inIntervals_eq_false letters_not_ignorable.1 hrange.1 hrange.2
    have hignorable' : isCaseIgnorable c.toLower = false :=
      inIntervals_eq_false letters_not_ignorable.2 (by omega) (by omega)
    have hne (d : Char) (hd : 122 < d.toNat) : c.toLower = d ↔ c = d :=
      iff_of_false (by rintro rfl; omega) (by rintro rfl; omega)
    refine ⟨hcased, hignorable'.trans hignorable.symm, ?_, hne _ (by decide), hne _ (by decide)⟩
    rw [← hlower, lowerChar_lowerChar]
  · have hstay : c.toLower = c := toLower_of_not_isUpper hupper
    rw [hstay]
    exact ⟨rfl, rfl, rfl, .rfl, .rfl⟩

theorem startsCased_cons (c : Char) (t : Text) :
    startsCased (c :: t) = if isCaseIgnorable c then startsCased t else isCased c := by
  cases hc : isCaseIgnorable c <;> simp [startsCased, hc]

theorem startsCased_map_toLower (t : Text) :
    startsCased (t.map Char.toLower) = startsCased t := by
  induction t with
  | nil => rfl
  | cons c rest ih =>
    obtain ⟨hcased, hignorable, -⟩ := toLower_alike c
    rw [List.map_cons, startsCased_cons, startsCased_cons, hcased, hignorable, ih]

theorem lowerAt_map_toLower (before : Text) (c : Char) (after : Text) :
    lowerAt (before.map Char.toLower) c.toLower (after.map Char.toLower) =
      lowerAt before c after := by
  obtain ⟨-, -, hlower, hsigma, hdot⟩ := toLower_alike c
  simp only [lowerAt, hsigma, hdot, hlower, startsCased_map_toLower]

theorem lowerFrom_map_toLower (before t : Text) :
    lowerFrom (before.map Char.toLower) (t.map Char.toLower) = lowerFrom before t := by
  induction t generalizing before with
  | nil => rfl
  | cons c rest ih =>
    rw [List.map_cons, lowerFrom, lowerFrom, lowerAt_map_toLower, ← List.map_cons, ih]

/-- It makes no difference if the ASCII letters are lower-cased first, by themselves. -/
theorem lower_map_toLower (t : Text) : lower (t.map Char.toLower) = lower t :=
  lowerFrom_map_toLower [] t

/-- Whether two texts differ at most in the case of letters of ASCII, the only ones that
`Char.toUpper` and `Char.toLower` change. -/
def SameLetters (s t : Text) : Prop :=
  List.Forall₂ (fun c d => d = c ∨ d = c.toUpper ∨ d = c.toLower) s t

theorem SameLetters.map_toLower {s t : Text} (h : SameLetters s t) :
    t.map Char.toLower = s.map Char.toLower := by
  induction h with
  | nil => rfl
  | @cons c d rest rest' hcd hrest ih =>
    have hc : d.toLower = c.toLower := by
      rcases hcd with rfl | rfl | rfl
      · rfl
      · exact toLower_toUpper c
      · exact toLower_toLower c
    rw [List.map_cons, List.map_cons, hc, ih]

theorem SameLetters.lower_eq {s t : Text} (h : SameLetters s t) : lower t = lower s := by
  rw [← lower_map_toLower t, h.map_toLower, lower_map_toLower]

end PageQuery.Text
