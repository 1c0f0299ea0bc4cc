import PageQuery.Page.Number

/-!
The pages that a query selected, in ascending order. A selection grows page by page in the order of
a scan, or is made from pages in any order.
-/
namespace PageQuery

structure Selection where
  pages : List PageNumber := []
  ascending : pages.Pairwise (· < ·) := by decide
deriving DecidableEq, Repr

namespace Selection

variable {s : Selection} {p : PageNumber}

@[ext] theorem ext {s' : Selection} (h : s.pages = s'.pages) : s = s' := by
  cases s
  cases s'
  cases h
  rfl

/-- Whether a page comes after all selected ones; the last one is the greatest. -/
def canPush (s : Selection) (p : PageNumber) : Bool :=
  match s.pages.getLast? with
  | some last => last < p
  | none => true

theorem canPush_iff (s : Selection) (p : PageNumber) :
    s.canPush p = true ↔ ∀ last ∈ s.pages.getLast?, last < p := by
  unfold canPush
  cases s.pages.getLast? <;> simp

/-- Only the last page is looked at; as the pages ascend, it stands for all of them. -/
theorem canPush_iff_forall_lt : s.canPush p = true ↔ ∀ q ∈ s.pages, q < p := by
  rw [canPush_iff]
  refine ⟨fun hpush q hq => ?_, fun h last hlast => h last (List.mem_of_getLast? hlast)⟩
  have hne : s.pages ≠ [] := List.ne_nil_of_mem hq
  have hlast := hpush _ (List.getLast?_eq_some_getLast hne)
  have hasc := s.ascending
  rw [← List.dropLast_concat_getLast hne] at hq hasc
  rcases List.mem_append.mp hq with hq | hq
  · have hlt := (List.pairwise_append.mp hasc).2.2 q hq _ (List.mem_singleton_self _)
    exact Nat.lt_trans hlt hlast
  · rwa [List.mem_singleton.mp hq]

theorem ascending_concat (h : s.canPush p = true) : (s.pages ++ [p]).Pairwise (· < ·) := by
  refine List.pairwise_append.mpr ⟨s.ascending, List.pairwise_singleton _ p, ?_⟩
  intro q hq r hr
  rw [List.mem_singleton.mp hr]
  exact canPush_iff_forall_lt.mp h q hq

/-- Adds a page after the others. A page that does not come after the last one is refused. -/
def push (s : Selection) (p : PageNumber) : Bool × Selection :=
  if h : s.canPush p = true then (true, ⟨s.pages ++ [p], ascending_concat h⟩) else (false, s)

theorem push_of_canPush (h : s.canPush p = true) :
    s.push p = (true, ⟨s.pages ++ [p], ascending_concat h⟩) := dif_pos h

theorem push_of_not_canPush (h : s.canPush p = false) : s.push p = (false, s) := by
  rw [push, dif_neg (by simp [h])]

def empty : Selection := {}

def pushAll (s : Selection) (pages : List PageNumber) : Selection :=
  pages.foldl (fun s p => (s.push p).2) s

def ofList (pages : List PageNumber) : Selection :=
  ⟨pages.foldl (fun sorted p => p.insert sorted) [],
    PageNumber.pairwise_foldl_insert pages List.Pairwise.nil⟩

def size (s : Selection) : Nat := s.pages.length

def isEmpty (s : Selection) : Bool := s.pages.isEmpty

def numbers (s : Selection) : List Nat := s.pages.map (·.value)

def render (s : Selection) : Text := renderPages s.pages

def toJson (s : Selection) : Text :=
  "\x7b\"pages\":[" ++ Text.joined "," (s.pages.map PageNumber.render) ++ "]\x7d"

end Selection
end PageQuery
