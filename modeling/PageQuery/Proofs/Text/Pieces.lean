import Mathlib.Data.List.DropRight
import PageQuery.Text.Blank

/-!
The pieces of a text between separators, and the white space at its ends, which does not matter to
the trimmed pieces.
-/
namespace PageQuery

section Pieces

variable {α : Type} [DecidableEq α] {separator : α}

theorem pieces_of_notMem {s : List α} (h : separator ∉ s) : pieces separator s = [s] := by
  induction s with
  | nil => rfl
  | cons a rest ih =>
    obtain ⟨ha, hrest⟩ := not_or.mp (mt List.mem_cons.mpr h)
    simp [pieces, ih hrest, Ne.symm ha]

theorem pieces_append_cons {p : List α} (h : separator ∉ p) (r : List α) :
    pieces separator (p ++ separator :: r) = p :: pieces separator r := by
  induction p with
  | nil => simp [pieces]
  | cons a rest ih =>
    obtain ⟨ha, hrest⟩ := not_or.mp (mt List.mem_cons.mpr h)
    simp [pieces, ih hrest, Ne.symm ha]

/-- Induction on the separators of a list. -/
@[elab_as_elim]
theorem pieces_induction {motive : List α → Prop} (separator : α)
    (uncut : ∀ s, separator ∉ s → motive s)
    (cut : ∀ p r, separator ∉ p → motive r → motive (p ++ separator :: r))
    (s : List α) : motive s := by
  by_cases h : separator ∈ s
  · obtain ⟨p, r, hs, hp⟩ := List.eq_append_cons_of_mem h
    have hr : r.length < s.length := by rw [hs, List.length_append, List.length_cons]; omega
    exact hs ▸ cut p r hp (pieces_induction separator uncut cut r)
  · exact uncut s h
termination_by s.length

theorem mem_of_mem_pieces {s p : List α} (h : p ∈ pieces separator s) {a : α} (ha : a ∈ p) :
    a ∈ s ∧ a ≠ separator := by
  induction s using pieces_induction separator with
  | uncut s hs =>
    rw [pieces_of_notMem hs, List.mem_singleton] at h
    subst h
    exact ⟨ha, fun heq => hs (heq ▸ ha)⟩
  | cut q r hq ih =>
    rw [pieces_append_cons hq] at h
    rcases List.mem_cons.mp h with rfl | hr
    · exact ⟨by simp [ha], fun heq => hq (heq ▸ ha)⟩
    · exact ⟨by simp [(ih hr).1], (ih hr).2⟩

/-- Two lists with a separator between them are cut on their own. -/
theorem pieces_append_separator (l r : List α) :
    pieces separator (l ++ separator :: r) = pieces separator l ++ pieces separator r := by
  induction l using pieces_induction separator with
  | uncut l hl => rw [pieces_append_cons hl, pieces_of_notMem hl, List.singleton_append]
  | cut p rest hp ih =>
    rw [List.append_assoc, List.cons_append, pieces_append_cons hp, ih, pieces_append_cons hp,
      List.cons_append]

/-- Joined lists are cut into the same lists, if none of them has a separator in it. -/
theorem pieces_intercalate {parts : List (List α)} (hne : parts ≠ [])
    (hparts : ∀ p ∈ parts, separator ∉ p) :
    pieces separator ([separator].intercalate parts) = parts := by
  induction parts with
  | nil => exact absurd rfl hne
  | cons p more ih =>
    have hp := hparts p List.mem_cons_self
    cases more with
    | nil => rw [List.intercalate_singleton, pieces_of_notMem hp]
    | cons q rest =>
      rw [List.intercalate_cons_cons, List.append_assoc, List.singleton_append,
        pieces_append_cons hp, ih (List.cons_ne_nil q rest) fun r hr =>
          hparts r (List.mem_cons_of_mem p hr)]

theorem cutAt?_eq_some_iff {s left right : List α} :
    cutAt? separator s = some (left, right) ↔
      s = left ++ separator :: right ∧ separator ∉ left := by
  induction s generalizing left with
  | nil => simp [cutAt?]
  | cons a rest ih =>
    rw [cutAt?]
    by_cases ha : a = separator
    · subst ha
      rw [if_pos rfl, Option.some.injEq, Prod.mk.injEq]
      constructor
      · rintro ⟨rfl, rfl⟩
        exact ⟨rfl, List.not_mem_nil⟩
      · rintro ⟨hcut, hleft⟩
        cases left with
        | nil => exact ⟨rfl, (List.cons.inj hcut).2⟩
        | cons b more =>
          obtain ⟨rfl, -⟩ := List.cons.inj hcut
          exact absurd List.mem_cons_self hleft
    · rw [if_neg ha, Option.map_eq_some_iff]
      constructor
      · rintro ⟨⟨more, end'⟩, hcut, hparts⟩
        cases hparts
        obtain ⟨rfl, hmore⟩ := ih.mp hcut
        exact ⟨rfl, by simp [hmore, Ne.symm ha]⟩
      · rintro ⟨hcut, hleft⟩
        cases left with
        | nil => exact absurd (List.cons.inj hcut).1 ha
        | cons b more =>
          obtain ⟨rfl, rfl⟩ := List.cons.inj hcut
          exact ⟨(more, right), ih.mpr ⟨rfl, fun h => hleft (List.mem_cons_of_mem a h)⟩, rfl⟩

theorem cutAt?_eq_none_iff {s : List α} : cutAt? separator s = none ↔ separator ∉ s := by
  rw [Option.eq_none_iff_forall_ne_some]
  constructor
  · intro h hmem
    obtain ⟨left, right, hs, hleft⟩ := List.eq_append_cons_of_mem hmem
    exact h (left, right) (cutAt?_eq_some_iff.mpr ⟨hs, hleft⟩)
  · rintro h ⟨left, right⟩ hcut
    obtain ⟨rfl, -⟩ := cutAt?_eq_some_iff.mp hcut
    exact h (by simp)

/-- What has no separator in it can be appended without another cut. -/
theorem cutAt?_append_of_notMem {r : List α} (h : separator ∉ r) (s : List α) :
    cutAt? separator (s ++ r) =
      (cutAt? separator s).map fun (left, right) => (left, right ++ r) := by
  cases hcut : cutAt? separator s with
  | none =>
    have hs := cutAt?_eq_none_iff.mp hcut
    exact cutAt?_eq_none_iff.mpr (by simp [hs, h])
  | some parts =>
    obtain ⟨left, right⟩ := parts
    obtain ⟨rfl, hleft⟩ := cutAt?_eq_some_iff.mp hcut
    exact cutAt?_eq_some_iff.mpr ⟨by simp, hleft⟩

theorem cutAtLast?_eq_some_iff {s left right : List α} :
    cutAtLast? separator s = some (left, right) ↔
      s = left ++ separator :: right ∧ separator ∉ right := by
  rw [cutAtLast?, Option.map_eq_some_iff]
  constructor
  · rintro ⟨⟨front, back⟩, hcut, hparts⟩
    cases hparts
    obtain ⟨hs, hfront⟩ := cutAt?_eq_some_iff.mp hcut
    refine ⟨?_, by simpa using hfront⟩
    rw [← List.reverse_reverse s, hs]
    simp
  · rintro ⟨rfl, hright⟩
    exact ⟨(right.reverse, left.reverse), cutAt?_eq_some_iff.mpr ⟨by simp, by simpa using hright⟩,
      by simp⟩

/-- A list has an end iff it is what is left when the end is stripped, and the end. -/
theorem stripEnd?_eq_some_iff {ending s front : List α} :
    stripEnd? ending s = some front ↔ s = front ++ ending := by
  unfold stripEnd?
  constructor
  · intro h
    split at h
    · next hending =>
      obtain ⟨before, rfl⟩ := List.isSuffixOf_iff_suffix.mp hending
      rw [List.length_append, Nat.add_sub_cancel, List.take_left] at h
      rw [Option.some.inj h]
    · cases h
  · rintro rfl
    rw [if_pos (List.isSuffixOf_iff_suffix.mpr (List.suffix_append front ending)),
      List.length_append, Nat.add_sub_cancel, List.take_left]

end Pieces

namespace Text

theorem trimStart_append_of_blank {l : Text} (h : ∀ c ∈ l, isBlank c = true) (t : Text) :
    trimStart (l ++ t) = trimStart t := List.dropWhile_append_of_pos h

theorem trimEnd_append_of_blank {r : Text} (h : ∀ c ∈ r, isBlank c = true) (t : Text) :
    trimEnd (t ++ r) = trimEnd t := by
  rw [trimEnd, List.reverse_append, List.dropWhile_append_of_pos (by simpa using h), trimEnd]

theorem trimEnd_cons (c : Char) (t : Text) :
    trimEnd (c :: t) =
      if trimEnd t = [] then (if isBlank c then [] else [c]) else c :: trimEnd t := by
  rw [trimEnd, List.reverse_cons, List.dropWhile_append]
  by_cases h : t.reverse.dropWhile isBlank = []
  · cases hc : isBlank c <;> simp [trimEnd, h, hc]
  · simp [trimEnd, h]

/-- It does not matter which end is trimmed first. -/
theorem trim_eq_trimStart_trimEnd (t : Text) : trim t = trimStart (trimEnd t) := by
  unfold trim
  induction t with
  | nil => rfl
  | cons c rest ih =>
    rw [trimEnd_cons]
    cases hc : isBlank c with
    | true =>
      have hskip : trimStart (c :: rest) = trimStart rest := by simp [trimStart, hc]
      rw [hskip, ih]
      split
      next h => simp [h, trimStart]
      next h => simp [trimStart, hc]
    | false =>
      have hstay : trimStart (c :: rest) = c :: rest := by simp [trimStart, hc]
      rw [hstay, trimEnd_cons, hc]
      split <;> simp [trimStart, hc]

theorem trim_append_left {l : Text} (h : ∀ c ∈ l, isBlank c = true) (t : Text) :
    trim (l ++ t) = trim t := by
  rw [trim, trimStart_append_of_blank h, trim]

theorem trim_append_right {r : Text} (h : ∀ c ∈ r, isBlank c = true) (t : Text) :
    trim (t ++ r) = trim t := by
  rw [trim_eq_trimStart_trimEnd, trimEnd_append_of_blank h, ← trim_eq_trimStart_trimEnd]

/-- A text is its trimmed form between runs of white space. -/
theorem exists_blank_append_trim (t : Text) :
    ∃ l r : Text, t = l ++ trim t ++ r ∧ (∀ c ∈ l, isBlank c = true) ∧
      ∀ c ∈ r, isBlank c = true := by
  refine ⟨t.takeWhile isBlank, (trimStart t).rtakeWhile isBlank, ?_, ?_, ?_⟩
  · have hend : trim t ++ (trimStart t).rtakeWhile isBlank = trimStart t :=
      List.rdropWhile_append_rtakeWhile
    rw [List.append_assoc, hend]
    exact List.takeWhile_append_dropWhile.symm
  · exact fun c hc => List.mem_takeWhile_imp hc
  · exact fun c hc => List.mem_rtakeWhile_imp hc

theorem trim_trim (t : Text) : trim (trim t) = trim t := by
  obtain ⟨l, r, heq, hl, hr⟩ := exists_blank_append_trim t
  conv_rhs => rw [heq, trim_append_right hr, trim_append_left hl]

theorem mem_of_mem_trim {c : Char} {t : Text} (h : c ∈ trim t) : c ∈ t := by
  obtain ⟨l, r, heq, -, -⟩ := exists_blank_append_trim t
  rw [heq]
  simp [h]

theorem trim_eq_nil_iff {t : Text} : trim t = [] ↔ ∀ c ∈ t, isBlank c = true := by
  constructor
  · intro h c hc
    obtain ⟨l, r, heq, hl, hr⟩ := exists_blank_append_trim t
    rw [heq, h, List.append_nil] at hc
    rcases List.mem_append.mp hc with hc | hc
    · exact hl c hc
    · exact hr c hc
  · intro h
    have hnil := trim_append_left h []
    rwa [List.append_nil] at hnil

/-- A text that neither begins nor ends with white space. -/
def IsTrimmed (t : Text) : Prop :=
  ∀ c, t.head? = some c ∨ t.getLast? = some c → isBlank c = false

theorem isTrimmed_trim (t : Text) : IsTrimmed (trim t) := by
  rintro c (hc | hc)
  · rw [trim_eq_trimStart_trimEnd, trimStart] at hc
    have hstop := List.head?_dropWhile_not isBlank (trimEnd t)
    rwa [hc] at hstop
  · rw [trim, trimEnd, List.getLast?_reverse] at hc
    have hstop := List.head?_dropWhile_not isBlank (trimStart t).reverse
    rwa [hc] at hstop

theorem trim_eq_self_iff {t : Text} : trim t = t ↔ IsTrimmed t := by
  constructor
  · intro h
    rw [← h]
    exact isTrimmed_trim t
  · intro h
    have hstart : trimStart t = t := by
      cases t with
      | nil => rfl
      | cons c rest => simp [trimStart, h c (.inl rfl)]
    have hend : trimEnd t = t := by
      rw [trimEnd, List.reverse_eq_iff]
      cases hlast : t.reverse with
      | nil => rfl
      | cons c rest =>
        rw [List.dropWhile_cons_of_neg]
        have hc : t.getLast? = some c := by rw [← List.head?_reverse, hlast, List.head?_cons]
        simp [h c (.inr hc)]
    rw [trim, hstart, hend]

theorem notMem_of_blank {l : Text} (hl : ∀ c ∈ l, isBlank c = true) {c : Char}
    (hc : isBlank c = false) : c ∉ l := fun h => by simp [hl c h] at hc

theorem mem_trim_iff {c : Char} (hc : isBlank c = false) (t : Text) : c ∈ trim t ↔ c ∈ t := by
  obtain ⟨l, r, heq, hl, hr⟩ := exists_blank_append_trim t
  conv_rhs => rw [heq]
  simp [notMem_of_blank hl hc, notMem_of_blank hr hc]

section

variable {separator : Char} (hsep : isBlank separator = false)
include hsep

theorem map_trim_pieces_append_left {l : Text} (hl : ∀ c ∈ l, isBlank c = true) (t : Text) :
    (pieces separator (l ++ t)).map trim = (pieces separator t).map trim := by
  have hnot := notMem_of_blank hl hsep
  induction t using pieces_induction separator with
  | uncut s hs =>
    have hls : separator ∉ l ++ s := by simp [hnot, hs]
    simp [pieces_of_notMem hls, pieces_of_notMem hs, trim_append_left hl]
  | cut p r hp _ =>
    have hlp : separator ∉ l ++ p := by simp [hnot, hp]
    rw [← List.append_assoc, pieces_append_cons hlp, pieces_append_cons hp]
    simp [trim_append_left hl]

theorem map_trim_pieces_append_right {r : Text} (hr : ∀ c ∈ r, isBlank c = true) (t : Text) :
    (pieces separator (t ++ r)).map trim = (pieces separator t).map trim := by
  have hnot := notMem_of_blank hr hsep
  induction t using pieces_induction separator with
  | uncut s hs =>
    have hsr : separator ∉ s ++ r := by simp [hnot, hs]
    simp [pieces_of_notMem hsr, pieces_of_notMem hs, trim_append_right hr]
  | cut p rest hp ih =>
    rw [List.append_assoc, List.cons_append, pieces_append_cons hp, pieces_append_cons hp]
    simp [ih]

/-- The white space at the ends of a text does not matter to its trimmed pieces. -/
theorem map_trim_pieces_trim (t : Text) :
    (pieces separator (trim t)).map trim = (pieces separator t).map trim := by
  obtain ⟨l, r, heq, hl, hr⟩ := exists_blank_append_trim t
  conv_rhs => rw [heq, map_trim_pieces_append_right hsep hr, map_trim_pieces_append_left hsep hl]

/-- Texts that are joined by a separator with white space around it are its trimmed pieces again. -/
theorem map_trim_pieces_joined {l r : Text} (hl : ∀ c ∈ l, isBlank c = true)
    (hr : ∀ c ∈ r, isBlank c = true) {parts : List Text} (hne : parts ≠ [])
    (hparts : ∀ p ∈ parts, separator ∉ p) :
    (pieces separator (joined (l ++ separator :: r) parts)).map trim = parts.map trim := by
  have hleft := notMem_of_blank hl hsep
  induction parts with
  | nil => exact absurd rfl hne
  | cons p more ih =>
    obtain ⟨hp, hmore⟩ := List.forall_mem_cons.mp hparts
    cases more with
    | nil => simp [joined, pieces_of_notMem hp]
    | cons q rest =>
      have hpl : separator ∉ p ++ l := by simp [hp, hleft]
      have hcut : joined (l ++ separator :: r) (p :: q :: rest) =
          (p ++ l) ++ separator :: (r ++ joined (l ++ separator :: r) (q :: rest)) := by
        simp [joined, List.intercalate_cons_cons]
      rw [hcut, pieces_append_cons hpl, List.map_cons, trim_append_right hl,
        map_trim_pieces_append_left hsep hr, ih (List.cons_ne_nil q rest) hmore, ← List.map_cons]

end

/-- What stands in joined texts stands in one of them, or in the separator between two. -/
theorem mem_joined_iff {c : Char} {separator : Text} {parts : List Text} :
    c ∈ joined separator parts ↔
      (∃ p ∈ parts, c ∈ p) ∨ c ∈ separator ∧ 2 ≤ parts.length := by
  induction parts with
  | nil => simp [joined]
  | cons p more ih =>
    cases more with
    | nil => simp [joined]
    | cons q rest =>
      have hcut : joined separator (p :: q :: rest) = p ++ separator ++ joined separator (q :: rest) := by
        simp [joined, List.intercalate_cons_cons]
      rw [hcut, List.mem_append, List.mem_append, ih]
      simp only [List.mem_cons, exists_eq_or_imp, List.length_cons]
      constructor
      · rintro ((h | h) | h | ⟨h, -⟩)
        · exact .inl (.inl h)
        · exact .inr ⟨h, by omega⟩
        · exact .inl (.inr h)
        · exact .inr ⟨h, by omega⟩
      · rintro ((h | h) | ⟨h, -⟩)
        · exact .inl (.inl h)
        · exact .inr (.inl h)
        · exact .inl (.inr h)

end Text
end PageQuery
