import PageQuery.Proofs.Text.Pieces
import PageQuery.Proofs.Text.Utf8
import PageQuery.Text.Lowercase

/-!
Lower-casing in context. The form of a capital sigma depends on the characters around it, but white
space and the operators of a query stop every search for a cased neighbour. A text can therefore be
cut at such a character before or after it is lower-cased.
-/
namespace PageQuery.Text

/-- A character that is the lower-case form of itself and of no other character, and behind which no
cased neighbour is looked for. -/
structure Inert (c : Char) : Prop where
  not_cased : isCased c = false
  not_ignorable : isCaseIgnorable c = false
  lowerChar_eq_iff : ∀ d, lowerChar d = c ↔ d = c

/-- The code points of white space and of the two operators. -/
def inertNumbers : List Nat :=
  [0x09, 0x0A, 0x0B, 0x0C, 0x0D, 0x20, 0x26, 0x7C, 0x85, 0xA0, 0x1680, 0x2000, 0x2001, 0x2002,
    0x2003, 0x2004, 0x2005, 0x2006, 0x2007, 0x2008, 0x2009, 0x200A, 0x2028, 0x2029, 0x202F, 0x205F,
    0x3000]

/-- Numbers between two bounds lie in no interval if each one lies before them or behind them. -/
theorem inIntervals_eq_false {intervals : List (Nat × Nat)} {first last n : Nat}
    (h : (intervals.all fun i => Nat.blt last i.1 || Nat.blt i.2 first) = true) (hfirst : first ≤ n)
    (hlast : n ≤ last) : inIntervals intervals n = false := by
  rw [inIntervals, List.any_eq_false]
  intro i hi
  have hbounds := List.all_eq_true.mp h i hi
  simp only [Bool.or_eq_true, Nat.blt_eq] at hbounds
  simp only [Bool.and_eq_true, decide_eq_true_eq]
  omega

private theorem inertNumbers_not_cased : ∀ n ∈ inertNumbers,
    inIntervals casedIntervals n = false ∧ inIntervals caseIgnorableIntervals n = false := by
  have hall : (inertNumbers.all fun n => (casedIntervals ++ caseIgnorableIntervals).all fun i =>
      Nat.blt n i.1 || Nat.blt i.2 n) = true := by decide +kernel
  intro n hn
  have hmisses := List.all_eq_true.mp hall n hn
  rw [List.all_append, Bool.and_eq_true] at hmisses
  exact ⟨inIntervals_eq_false hmisses.1 le_rfl le_rfl, inIntervals_eq_false hmisses.2 le_rfl le_rfl⟩

private theorem inertNumbers_not_covered : ∀ n ∈ inertNumbers, ∀ r ∈ lowerRanges,
    r.covers n = false := by
  decide +kernel

/-- No row of the table leads to one of these code points. -/
private theorem inertNumbers_not_image : ∀ n ∈ inertNumbers, ∀ r ∈ lowerRanges,
    (n : Int) < r.first + r.shift ∨ r.last + r.shift < (n : Int) := by
  decide +kernel

private theorem inertNumbers_pos : ∀ n ∈ inertNumbers, 0 < n := by decide

/-- Either a row of the table covers a character and shifts it, or the character stays. -/
theorem lowerChar_cases (c : Char) :
    (∃ r ∈ lowerRanges, r.covers c.toNat = true ∧
      lowerChar c = Char.ofNat (c.toNat + r.shift).toNat) ∨
    ((∀ r ∈ lowerRanges, r.covers c.toNat = false) ∧ lowerChar c = c) := by
  unfold lowerChar
  split
  next r h =>
    exact .inl ⟨r, List.mem_of_find?_eq_some h,
      List.find?_some (p := fun r : CaseRange => r.covers c.toNat) h, rfl⟩
  next h => exact .inr ⟨by simpa using List.find?_eq_none.mp h, rfl⟩

theorem lowerChar_of_not_covered {c : Char}
    (h : ∀ r ∈ lowerRanges, r.covers c.toNat = false) : lowerChar c = c := by
  rcases lowerChar_cases c with ⟨r, hr, hcov, -⟩ | ⟨-, heq⟩
  · rw [h r hr] at hcov
    cases hcov
  · exact heq

/-- A character that no row leads to is the lower-case form of no other character. -/
theorem eq_of_lowerChar_eq {c d : Char} (hpos : 0 < c.toNat)
    (himage : ∀ r ∈ lowerRanges, (c.toNat : Int) < r.first + r.shift ∨ r.last + r.shift < c.toNat)
    (h : lowerChar d = c) : d = c := by
  rcases lowerChar_cases d with ⟨r, hr, hcov, heq⟩ | ⟨-, heq⟩
  · simp only [CaseRange.covers, Bool.and_eq_true, decide_eq_true_eq] at hcov
    have hn := toNat_ofNat_cases (d.toNat + r.shift).toNat
    rw [← heq, h] at hn
    have hr := himage r hr
    omega
  · exact heq ▸ h

theorem inert_of_mem {c : Char} (h : c.toNat ∈ inertNumbers) : Inert c where
  not_cased := (inertNumbers_not_cased _ h).1
  not_ignorable := (inertNumbers_not_cased _ h).2
  lowerChar_eq_iff d := by
    constructor
    · intro hd
      exact eq_of_lowerChar_eq (inertNumbers_pos _ h) (inertNumbers_not_image _ h) hd
    · rintro rfl
      exact lowerChar_of_not_covered (inertNumbers_not_covered _ h)

theorem inert_of_isBlank {c : Char} (h : isBlank c = true) : Inert c := by
  apply inert_of_mem
  simp only [isBlank, Bool.or_eq_true, Bool.and_eq_true, decide_eq_true_eq, beq_iff_eq] at h
  simp only [inertNumbers, List.mem_cons, List.not_mem_nil]
  omega

theorem inert_ampersand : Inert '&' := inert_of_mem (by decide)

theorem inert_bar : Inert '|' := inert_of_mem (by decide)

namespace Inert

variable {c : Char} (h : Inert c)
include h

theorem ne_sigma : c ≠ 'Σ' := by
  rintro rfl
  exact absurd h.not_cased (by decide)

theorem lowerAt_eq (before after : Text) : lowerAt before c after = [c] := by
  have hdot : c ≠ 'İ' := by
    rintro rfl
    exact absurd h.not_cased (by decide)
  rw [lowerAt, if_neg h.ne_sigma, if_neg hdot, (h.lowerChar_eq_iff c).mpr rfl]

/-- An inert character comes from itself only. -/
theorem mem_lowerAt_iff (before : Text) (d : Char) (after : Text) :
    c ∈ lowerAt before d after ↔ d = c := by
  constructor
  · intro hmem
    unfold lowerAt at hmem
    split at hmem
    · split at hmem <;> rw [List.mem_singleton] at hmem <;> subst hmem <;>
        exact absurd h.not_cased (by decide)
    · split at hmem
      · rcases List.mem_pair.mp hmem with rfl | rfl
        · exact absurd h.not_cased (by decide)
        · exact absurd h.not_ignorable (by decide)
      · exact (h.lowerChar_eq_iff d).mp (List.mem_singleton.mp hmem).symm
  · rintro rfl
    simp [h.lowerAt_eq]

/-- No search for a cased neighbour goes past an inert character. -/
theorem startsCased_append (s t : Text) : startsCased (s ++ c :: t) = startsCased s := by
  induction s with
  | nil => simp [startsCased, h.not_ignorable, h.not_cased]
  | cons d rest ih =>
    cases hd : isCaseIgnorable d
    · simp [startsCased, hd]
    · simpa [startsCased, hd] using ih

end Inert

theorem lowerAt_ne_nil (before : Text) (c : Char) (after : Text) : lowerAt before c after ≠ [] := by
  unfold lowerAt
  split_ifs <;> simp

/-- Lower-cases a text between its neighbours, of which those before it are read backwards. -/
def lowerBetween (before : Text) : Text → Text → Text
  | [], _ => []
  | c :: rest, after => lowerAt before c (rest ++ after) ++ lowerBetween (c :: before) rest after

theorem lowerFrom_eq_lowerBetween (before t : Text) :
    lowerFrom before t = lowerBetween before t [] := by
  induction t generalizing before with
  | nil => rfl
  | cons c rest ih => simp [lowerFrom, lowerBetween, ih]

theorem lower_eq_lowerBetween (t : Text) : lower t = lowerBetween [] t [] :=
  lowerFrom_eq_lowerBetween [] t

/-- Two neighbouring texts are lower-cased one after the other, each with the other in sight. -/
theorem lowerBetween_append (before s t after : Text) :
    lowerBetween before (s ++ t) after =
      lowerBetween before s (t ++ after) ++ lowerBetween (s.reverse ++ before) t after := by
  induction s generalizing before with
  | nil => rfl
  | cons c rest ih => simp [lowerBetween, ih]

/-- Only what a search for cased neighbours finds around a text matters. -/
theorem lowerBetween_congr {before before' after after' : Text}
    (hbefore : ∀ s, startsCased (s ++ before) = startsCased (s ++ before'))
    (hafter : ∀ s, startsCased (s ++ after) = startsCased (s ++ after')) (t : Text) :
    lowerBetween before t after = lowerBetween before' t after' := by
  induction t generalizing before before' with
  | nil => rfl
  | cons c rest ih =>
    have hhead : startsCased before = startsCased before' := by simpa using hbefore []
    have htail (s : Text) : startsCased (s ++ c :: before) = startsCased (s ++ c :: before') := by
      simpa using hbefore (s ++ [c])
    simp only [lowerBetween, lowerAt, hhead, hafter, ih htail]

theorem length_lowerAt (before before' : Text) (c : Char) (after after' : Text) :
    (lowerAt before c after).length = (lowerAt before' c after').length := by
  unfold lowerAt
  split_ifs <;> rfl

/-- Two neighbourhoods give a text the same form iff they agree on its capital sigmas. -/
theorem lowerBetween_eq_iff (before before' t after after' : Text) :
    lowerBetween before t after = lowerBetween before' t after' ↔
      ∀ front back, t = front ++ 'Σ' :: back →
        lowerAt (front.reverse ++ before) 'Σ' (back ++ after) =
          lowerAt (front.reverse ++ before') 'Σ' (back ++ after') := by
  induction t generalizing before before' with
  | nil => simp [lowerBetween]
  | cons c rest ih =>
    constructor
    · intro h front back heq
      obtain ⟨hhead, htail⟩ := List.append_inj h (length_lowerAt ..)
      cases front with
      | nil =>
        obtain ⟨rfl, rfl⟩ := List.cons.inj heq
        exact hhead
      | cons d more =>
        obtain ⟨rfl, hrest⟩ := List.cons.inj heq
        simpa using (ih (c :: before) (c :: before')).mp htail more back hrest
    · intro h
      have hhead : lowerAt before c (rest ++ after) = lowerAt before' c (rest ++ after') := by
        by_cases hc : c = 'Σ'
        · subst hc
          exact h [] rest rfl
        · simp [lowerAt, hc]
      have htail :
          lowerBetween (c :: before) rest after = lowerBetween (c :: before') rest after' := by
        refine (ih _ _).mpr fun front back heq => ?_
        simpa using h (c :: front) back (by rw [heq, List.cons_append])
      rw [lowerBetween, lowerBetween, hhead, htail]

/-- Whether a capital sigma between two texts ends a word. -/
def endsWord (before after : Text) : Bool := startsCased before.reverse && !startsCased after

/-- Whether each capital sigma of a text ends a word between the neighbours of the text exactly if
it does in the text by itself. -/
def SigmasStay (before t after : Text) : Prop :=
  ∀ front back, t = front ++ 'Σ' :: back →
    endsWord (before ++ front) (back ++ after) = endsWord front back

theorem lowerAt_sigma (before after : Text) :
    lowerAt before.reverse 'Σ' after = [if endsWord before after then 'ς' else 'σ'] := rfl

/-- A text has its own lower-case form between neighbours iff they leave its capital sigmas
alone. -/
theorem lowerBetween_eq_lower_iff (before t after : Text) :
    lowerBetween before.reverse t after = lower t ↔ SigmasStay before t after := by
  have hsigma (x y x' y' : Text) : lowerAt x.reverse 'Σ' y = lowerAt x'.reverse 'Σ' y' ↔
      endsWord x y = endsWord x' y' := by
    rw [lowerAt_sigma, lowerAt_sigma]
    cases endsWord x y <;> cases endsWord x' y' <;> decide
  rw [lower_eq_lowerBetween, lowerBetween_eq_iff]
  simp only [List.append_nil, ← List.reverse_append, hsigma, SigmasStay]

instance (before t after : Text) : Decidable (SigmasStay before t after) :=
  decidable_of_iff _ (lowerBetween_eq_lower_iff before t after)

namespace Inert

variable {c : Char} (h : Inert c)
include h

/-- A text can be cut at an inert character before or after it is lower-cased. -/
theorem lower_append_cons (s t : Text) : lower (s ++ c :: t) = lower s ++ c :: lower t := by
  have hs : lowerBetween [] s (c :: t) = lowerBetween [] s [] :=
    lowerBetween_congr (fun _ => rfl) (fun x => by simp [h.startsCased_append]) s
  have ht : lowerBetween (c :: s.reverse) t [] = lowerBetween [] t [] :=
    lowerBetween_congr (fun x => by simp [h.startsCased_append]) (fun _ => rfl) t
  simp only [lower_eq_lowerBetween, lowerBetween_append, lowerBetween, h.lowerAt_eq,
    List.append_nil, List.singleton_append, hs, ht]

theorem lower_cons (t : Text) : lower (c :: t) = c :: lower t := h.lower_append_cons [] t

theorem lower_concat (s : Text) : lower (s ++ [c]) = lower s ++ [c] := h.lower_append_cons s []

theorem mem_lower_iff (t : Text) : c ∈ lower t ↔ c ∈ t := by
  have hfrom (before : Text) : c ∈ lowerFrom before t ↔ c ∈ t := by
    induction t generalizing before with
    | nil => rfl
    | cons d rest ih =>
      simp only [lowerFrom, List.mem_append, h.mem_lowerAt_iff, ih, List.mem_cons, eq_comm]
  exact hfrom []

theorem pieces_lower (t : Text) : pieces c (lower t) = (pieces c t).map lower := by
  induction t using pieces_induction c with
  | uncut s hs =>
    simp [pieces_of_notMem hs, pieces_of_notMem (mt (h.mem_lower_iff s).mp hs)]
  | cut p r hp ih =>
    rw [h.lower_append_cons, pieces_append_cons (mt (h.mem_lower_iff p).mp hp), ih,
      pieces_append_cons hp, List.map_cons]

end Inert

theorem lower_append_of_inert {l : Text} (h : ∀ c ∈ l, Inert c) (t : Text) :
    lower (l ++ t) = l ++ lower t := by
  induction l with
  | nil => rfl
  | cons c rest ih =>
    obtain ⟨hc, hrest⟩ := List.forall_mem_cons.mp h
    rw [List.cons_append, hc.lower_cons, ih hrest, List.cons_append]

/-- Texts with inert characters between them are lower-cased each by itself. -/
theorem lower_joined {separator : Text} (hne : separator ≠ []) (h : ∀ c ∈ separator, Inert c)
    (parts : List Text) : lower (joined separator parts) = joined separator (parts.map lower) := by
  induction parts with
  | nil => rfl
  | cons p more ih =>
    cases more with
    | nil => simp [joined]
    | cons q rest =>
      obtain ⟨c, tail, rfl⟩ := List.exists_cons_of_ne_nil hne
      obtain ⟨hc, htail⟩ := List.forall_mem_cons.mp h
      have hcut (a b : Text) (others : List Text) : joined (c :: tail) (a :: b :: others) =
          a ++ c :: (tail ++ joined (c :: tail) (b :: others)) := by
        simp [joined, List.intercalate_cons_cons]
      rw [List.map_cons, List.map_cons, hcut, hcut, hc.lower_append_cons,
        lower_append_of_inert htail, ih, List.map_cons]

/-- What comes of a character that is not blank has no blank in it. -/
theorem not_blank_of_mem_lowerAt {before after : Text} {c d : Char} (hc : isBlank c = false)
    (hd : d ∈ lowerAt before c after) : isBlank d = false := by
  by_contra hblank
  rw [Bool.not_eq_false] at hblank
  have heq := ((inert_of_isBlank hblank).mem_lowerAt_iff before c after).mp hd
  rw [heq, hblank] at hc
  contradiction

theorem trimStart_lower (t : Text) : trimStart (lower t) = lower (trimStart t) := by
  induction t with
  | nil => rfl
  | cons c rest ih =>
    cases hc : isBlank c with
    | true =>
      rw [(inert_of_isBlank hc).lower_cons]
      simpa [trimStart, hc] using ih
    | false =>
      have hstay : trimStart (c :: rest) = c :: rest := by simp [trimStart, hc]
      obtain ⟨d, more, hd⟩ := List.exists_cons_of_ne_nil (lowerAt_ne_nil [] c rest)
      have hblank : isBlank d = false :=
        not_blank_of_mem_lowerAt hc (hd ▸ List.mem_cons_self)
      rw [hstay, lower, lowerFrom, hd]
      simp [trimStart, hblank]

theorem trimEnd_lower (t : Text) : trimEnd (lower t) = lower (trimEnd t) := by
  induction t using List.reverseRecOn with
  | nil => rfl
  | append_singleton rest c ih =>
    cases hc : isBlank c with
    | true =>
      have hall : ∀ d ∈ [c], isBlank d = true := by simpa using hc
      rw [(inert_of_isBlank hc).lower_concat, trimEnd_append_of_blank hall, ih,
        trimEnd_append_of_blank hall]
    | false =>
      have hstay : trimEnd (rest ++ [c]) = rest ++ [c] :=
        List.rdropWhile_concat_neg _ _ _ (by simp [hc])
      obtain ⟨more, d, hd⟩ :=
        (List.eq_nil_or_concat' _).resolve_left (lowerAt_ne_nil rest.reverse c [])
      have hblank : isBlank d = false := not_blank_of_mem_lowerAt hc (hd ▸ List.mem_concat_self)
      have hlower : lower (rest ++ [c]) = (lowerBetween [] rest [c] ++ more) ++ [d] := by
        simp [lower_eq_lowerBetween, lowerBetween_append, lowerBetween, hd]
      rw [hstay, hlower]
      exact List.rdropWhile_concat_neg _ _ _ (by simp [hblank])

theorem trim_lower (t : Text) : trim (lower t) = lower (trim t) := by
  rw [trim, trimStart_lower, trimEnd_lower, trim]

end PageQuery.Text
