import Mathlib.Data.List.Sort
import PageQuery.Page.Selection

/-!
Ascending pages, and which pages a selection takes.
-/
namespace PageQuery

namespace PageNumber

instance : Std.Irrefl (α := PageNumber) (· < ·) := ⟨fun p => Nat.lt_irrefl p.value⟩

instance : Std.Antisymm (α := PageNumber) (· < ·) :=
  ⟨fun _ _ hpq hqp => absurd hqp (Nat.lt_asymm hpq)⟩

theorem pairwise_range (total : Nat) : (range total).Pairwise (· < ·) := by
  unfold range
  rw [List.pairwise_filterMap]
  refine List.Pairwise.imp ?_ List.pairwise_lt_range'
  intro n k hnk p hp q hq
  rw [ofNat?_eq_some_iff] at hp hq
  rw [lt_def]
  omega

theorem length_range_le (total : Nat) : (range total).length ≤ total := by
  have hle := List.length_filterMap_le ofNat? (List.range' 1 total)
  rwa [List.length_range'] at hle

/-- All numbers of a document's pages are page numbers, unless there are too many. -/
theorem map_value_range {total : Nat} (h : total < Word.bound32) :
    (range total).map (·.value) = List.range' 1 total := by
  have hvalue : ∀ n ∈ List.range' 1 total, (ofNat? n).map (·.value) = some n := by
    intro n hn
    rw [List.mem_range'_1] at hn
    rw [ofNat?, dif_pos ⟨by omega, by omega⟩]
    rfl
  rw [range, List.map_filterMap, List.filterMap_congr hvalue, List.filterMap_some]

theorem offset_lt_iff {p : PageNumber} {total : Nat} : p.offset < total ↔ p.value ≤ total := by
  have hpos := p.value_pos
  unfold offset
  omega

/-- There are fewer than `2 ^ 32` page numbers, and ranges have no repetitions. -/
theorem length_range (total : Nat) :
    (range total).length = min total (Word.bound32 - 1) := by
  rcases Nat.lt_or_ge total Word.bound32 with h | h
  · have hlength := congrArg List.length (map_value_range h)
    rw [List.length_map, List.length_range'] at hlength
    omega
  · have hlast : Word.bound32 - 1 < Word.bound32 := by decide
    have hsame : range total = range (Word.bound32 - 1) := by
      refine (pairwise_range _).eq_of_mem_iff (pairwise_range _) fun p => ?_
      have hp := p.value_lt
      rw [mem_range, mem_range]
      omega
    have hlength := congrArg List.length (map_value_range hlast)
    rw [List.length_map, List.length_range'] at hlength
    rw [hsame]
    omega

theorem range_length_range (total : Nat) : range (range total).length = range total := by
  refine (pairwise_range _).eq_of_mem_iff (pairwise_range _) fun p => ?_
  have hp := p.value_lt
  rw [mem_range, mem_range, length_range]
  omega

theorem mem_foldl_insert {pages sorted : List PageNumber} {q : PageNumber} :
    q ∈ pages.foldl (fun sorted p => p.insert sorted) sorted ↔ q ∈ pages ∨ q ∈ sorted := by
  induction pages generalizing sorted with
  | nil => simp
  | cons p rest ih =>
    rw [List.foldl_cons, ih, mem_insert, List.mem_cons, ← or_assoc, or_comm (a := q ∈ rest)]

/-- The items of a list at the places of pages, all of which are within it. -/
def Picks {α : Type} (pages : List PageNumber) (items picked : List α) : Prop :=
  picked.map some = pages.map fun p => items[p.offset]?

theorem picks_filterMap {α : Type} {items : List α} {pages : List PageNumber}
    (h : ∀ p ∈ pages, p.offset < items.length) :
    Picks pages items (pages.filterMap fun p => items[p.offset]?) := by
  rw [Picks, List.map_filterMap_some_eq_filter_map_isSome, List.filter_eq_self]
  intro item hitem
  obtain ⟨p, hp, rfl⟩ := List.mem_map.mp hitem
  simp [h p hp]

end PageNumber

namespace Selection

theorem mem_ofList {pages : List PageNumber} {p : PageNumber} :
    p ∈ (ofList pages).pages ↔ p ∈ pages := by
  simp only [ofList, PageNumber.mem_foldl_insert, List.not_mem_nil, or_false]

/-- As the pages ascend, selections with the same pages are the same. -/
theorem eq_of_mem_iff {s s' : Selection} (h : ∀ p, p ∈ s.pages ↔ p ∈ s'.pages) : s = s' :=
  ext (s.ascending.eq_of_mem_iff s'.ascending fun p => h p)

/-- A selection is made of its pages, whatever their order and however often they come. -/
theorem ofList_congr {pages pages' : List PageNumber} (h : ∀ p, p ∈ pages ↔ p ∈ pages') :
    ofList pages = ofList pages' :=
  eq_of_mem_iff fun p => by rw [mem_ofList, mem_ofList, h]

theorem ofList_of_ascending {pages : List PageNumber} (h : pages.Pairwise (· < ·)) :
    ofList pages = ⟨pages, h⟩ :=
  eq_of_mem_iff fun _ => mem_ofList

end Selection
end PageQuery
