import Mathlib.Data.List.Induction
import Mathlib.Tactic.Push
import PageQuery.Proofs.Page.Selection

/-!
Selections that are made step by step. The pages ascend after each step, so a page that comes after
the last one comes after all; and pages pushed one after another leave the records of the sequence.
-/
namespace PageQuery.Selection

inductive Step where
  | push (page : PageNumber)
  /-- Begin again with these pages. -/
  | collect (pages : List PageNumber)

def Step.apply (s : Selection) : Step → Selection
  | push page => (s.push page).2
  | collect pages => ofList pages

/-- The selection after steps from the empty one. -/
def afterSteps (steps : List Step) : Selection := steps.foldl Step.apply .empty

theorem afterSteps_concat (steps : List Step) (step : Step) :
    afterSteps (steps ++ [step]) = step.apply (afterSteps steps) :=
  List.foldl_concat _ _ _ _

/-- The pages that exceed every page in front of them, in their order. -/
def records (pages : List PageNumber) : List PageNumber :=
  pages.zipIdx.filterMap fun (page, i) =>
    if ∀ q ∈ pages.take i, q < page then some page else none

variable {p : PageNumber}

theorem afterSteps_map_push (pages : List PageNumber) :
    afterSteps (pages.map .push) = pushAll .empty pages :=
  List.foldl_map

/-! ### Records -/

theorem records_concat (front : List PageNumber) (p : PageNumber) :
    records (front ++ [p]) = records front ++ if ∀ q ∈ front, q < p then [p] else [] := by
  have hfront : ∀ e ∈ front.zipIdx,
      (if ∀ q ∈ (front ++ [p]).take e.2, q < e.1 then some e.1 else none) =
        if ∀ q ∈ front.take e.2, q < e.1 then some e.1 else none := by
    intro e he
    have hindex : e.2 < front.length := by simpa using List.snd_lt_of_mem_zipIdx he
    rw [List.take_append_of_le_length (Nat.le_of_lt hindex)]
  rw [records, records, List.zipIdx_append, List.filterMap_append, List.filterMap_congr hfront]
  congr 1
  simp only [List.zipIdx_singleton, List.filterMap_cons, Nat.zero_add, List.filterMap_nil,
    List.take_left]
  split_ifs <;> rfl

theorem mem_of_mem_records {pages : List PageNumber} (h : p ∈ records pages) : p ∈ pages := by
  obtain ⟨⟨q, i⟩, hmem, hread⟩ := List.mem_filterMap.mp h
  dsimp only at hread
  split_ifs at hread
  cases hread
  exact List.fst_mem_of_mem_zipIdx hmem

/-- No page exceeds all records. -/
theorem exists_record_ge {pages : List PageNumber} (h : p ∈ pages) :
    ∃ r ∈ records pages, p ≤ r := by
  induction pages using List.reverseRecOn generalizing p with
  | nil => cases h
  | append_singleton front last ih =>
    rw [records_concat]
    rcases List.mem_append.mp h with hfront | hlast
    · obtain ⟨r, hr, hle⟩ := ih hfront
      exact ⟨r, List.mem_append_left _ hr, hle⟩
    · rw [List.mem_singleton.mp hlast]
      by_cases hrecord : ∀ q ∈ front, q < last
      · rw [if_pos hrecord]
        exact ⟨last, by simp, Nat.le_refl _⟩
      · push Not at hrecord
        obtain ⟨q, hq, hge⟩ := hrecord
        obtain ⟨r, hr, hle⟩ := ih hq
        exact ⟨r, List.mem_append_left _ hr, Nat.le_trans (Nat.le_of_not_lt hge) hle⟩

theorem forall_records_lt_iff {pages : List PageNumber} :
    (∀ q ∈ records pages, q < p) ↔ ∀ q ∈ pages, q < p := by
  constructor
  · intro h q hq
    obtain ⟨r, hr, hle⟩ := exists_record_ge hq
    exact Nat.lt_of_le_of_lt hle (h r hr)
  · intro h q hq
    exact h q (mem_of_mem_records hq)

theorem pages_pushAll (pages : List PageNumber) : (pushAll .empty pages).pages = records pages := by
  induction pages using List.reverseRecOn with
  | nil => rfl
  | append_singleton front p ih =>
    have hlast : pushAll .empty (front ++ [p]) = ((pushAll .empty front).push p).2 :=
      List.foldl_concat _ _ _ _
    have hcan : (pushAll .empty front).canPush p = true ↔ ∀ q ∈ front, q < p := by
      rw [canPush_iff_forall_lt, ih, forall_records_lt_iff]
    rw [hlast, records_concat, ← ih]
    by_cases hrecord : ∀ q ∈ front, q < p
    · rw [push_of_canPush (hcan.mpr hrecord), if_pos hrecord]
    · have hnot : (pushAll .empty front).canPush p = false := by
        rw [Bool.eq_false_iff]
        exact fun hpush => hrecord (hcan.mp hpush)
      rw [push_of_not_canPush hnot, if_neg hrecord, List.append_nil]

/-- In a sequence that never falls, a page is a record where it comes first. -/
theorem mem_records_of_pairwise_le {pages : List PageNumber} (h : pages.Pairwise (· ≤ ·))
    (hp : p ∈ pages) : p ∈ records pages := by
  induction pages using List.reverseRecOn with
  | nil => cases hp
  | append_singleton front last ih =>
    obtain ⟨hfront, -, hlast⟩ := List.pairwise_append.mp h
    rw [records_concat]
    rcases List.mem_append.mp hp with hp | hp
    · exact List.mem_append_left _ (ih hfront hp)
    · obtain rfl := List.mem_singleton.mp hp
      by_cases hrecord : ∀ q ∈ front, q < p
      · rw [if_pos hrecord]
        exact List.mem_append_right _ (List.mem_singleton_self p)
      · push Not at hrecord
        obtain ⟨q, hq, hge⟩ := hrecord
        have hle := hlast q hq p (List.mem_singleton_self p)
        have hsame : q = p := PageNumber.ext (Nat.le_antisymm hle (Nat.le_of_not_lt hge))
        exact List.mem_append_left _ (ih hfront (hsame ▸ hq))

theorem pushAll_eq_ofList {pages : List PageNumber} (h : pages.Pairwise (· ≤ ·)) :
    pushAll .empty pages = ofList pages := by
  apply eq_of_mem_iff
  intro p
  rw [pages_pushAll, mem_ofList]
  exact ⟨mem_of_mem_records, mem_records_of_pairwise_le h⟩

/-- After any steps the pages ascend, and a page is taken iff it exceeds all pages held. Pages pushed
into the empty selection leave their records; collected ones are held in ascending order, whatever
their order and however often they come; and a sequence that never falls gives the same either way. -/
theorem selection_ascends_and_keeps_records (steps : List Step) (pages : List PageNumber) :
    let s := afterSteps steps
    s.pages.Pairwise (· < ·) ∧
    (∀ p, ((s.push p).1 = true ↔ ∀ q ∈ s.pages, q < p) ∧
      ((s.push p).1 = true → (s.push p).2.pages = s.pages ++ [p]) ∧
      ((s.push p).1 = false → (s.push p).2 = s)) ∧
    (afterSteps (pages.map .push)).pages = records pages ∧
    ((afterSteps (steps ++ [.collect pages])).pages.Pairwise (· < ·) ∧
      (∀ p, p ∈ (afterSteps (steps ++ [.collect pages])).pages ↔ p ∈ pages) ∧
      ∀ again, (∀ p, p ∈ again ↔ p ∈ pages) →
        afterSteps (steps ++ [.collect again]) = afterSteps (steps ++ [.collect pages])) ∧
    (pages.Pairwise (· ≤ ·) →
      afterSteps (pages.map .push) = afterSteps (steps ++ [.collect pages])) := by
  intro s
  have hcollect (pages : List PageNumber) :
      afterSteps (steps ++ [.collect pages]) = ofList pages := afterSteps_concat _ _
  refine ⟨s.ascending, fun p => ?_, ?_, ⟨Selection.ascending _, ?_, ?_⟩, ?_⟩
  · rw [← canPush_iff_forall_lt]
    cases hpush : s.canPush p with
    | true => simp [push_of_canPush hpush]
    | false => simp [push_of_not_canPush hpush]
  · rw [afterSteps_map_push, pages_pushAll]
  · intro p
    rw [hcollect, mem_ofList]
  · intro again hsame
    rw [hcollect, hcollect]
    exact ofList_congr hsame
  · intro hle
    rw [hcollect, afterSteps_map_push]
    exact pushAll_eq_ofList hle

/-- A page between those held is refused, one behind them is taken; and pages that repeat. -/
theorem selection_ascends_and_keeps_records_repeated :
    let two : PageNumber := ⟨2, by decide, by decide⟩
    let four : PageNumber := ⟨4, by decide, by decide⟩
    let five : PageNumber := ⟨5, by decide, by decide⟩
    let nine : PageNumber := ⟨9, by decide, by decide⟩
    let s := afterSteps [.push five, .collect [five, two, five, .first], .push four]
    s.pages = [.first, two, five] ∧ (s.push four).2 = s ∧ (s.push nine).2.pages = s.pages ++ [nine] ∧
      [two, two, five].Pairwise (· ≤ ·) ∧
      afterSteps ([two, two, five].map .push) = afterSteps [.collect [two, two, five]] ∧
      afterSteps [.collect [five, two]] = afterSteps [.collect [two, two, five]] := by
  intro two four five nine s
  have hpages : s.pages = [.first, two, five] := by decide +kernel
  have hfour : (s.push four).1 = false := by decide +kernel
  have hnine : (s.push nine).1 = true := by decide +kernel
  have hle : [two, two, five].Pairwise (· ≤ ·) := by decide
  have hsame : ∀ p, p ∈ [five, two] ↔ p ∈ [two, two, five] := by
    intro p
    simp only [List.mem_cons, List.not_mem_nil, or_false]
    tauto
  obtain ⟨-, hpush, -⟩ := selection_ascends_and_keeps_records
    [.push five, .collect [five, two, five, .first], .push four] []
  obtain ⟨-, -, -, ⟨-, -, hagain⟩, hagree⟩ :=
    selection_ascends_and_keeps_records [] [two, two, five]
  exact ⟨hpages, (hpush four).2.2 hfour, (hpush nine).2.1 hnine, hle, hagree hle,
    hagain [five, two] hsame⟩

end PageQuery.Selection
