import PageQuery.Text.Basic
import PageQuery.Word

/-!
Page numbers, which count from one, and their ranges.
-/
namespace PageQuery

structure PageNumber where
  value : Nat
  value_pos : 0 < value
  value_lt : value < Word.bound32
deriving DecidableEq

namespace PageNumber

instance : Repr PageNumber := ⟨fun p => reprPrec p.value⟩

def ofNat? (n : Nat) : Option PageNumber :=
  if h : 0 < n ∧ n < Word.bound32 then some ⟨n, h.1, h.2⟩ else none

def first : PageNumber := ⟨1, by decide, by decide⟩

/-- The place of the page in a list of pages. -/
def offset (p : PageNumber) : Nat := p.value - 1

def range (total : Nat) : List PageNumber := (List.range' 1 total).filterMap ofNat?

def render (p : PageNumber) : Text := Text.ofNat p.value

@[ext] theorem ext {p q : PageNumber} (h : p.value = q.value) : p = q := by
  cases p; cases q; simp_all

instance : LT PageNumber := ⟨fun p q => p.value < q.value⟩
instance : LE PageNumber := ⟨fun p q => p.value ≤ q.value⟩
instance (p q : PageNumber) : Decidable (p < q) := inferInstanceAs (Decidable (p.value < q.value))
instance (p q : PageNumber) : Decidable (p ≤ q) := inferInstanceAs (Decidable (p.value ≤ q.value))

theorem lt_def (p q : PageNumber) : p < q ↔ p.value < q.value := Iff.rfl

theorem ofNat?_value (p : PageNumber) : ofNat? p.value = some p :=
  dif_pos ⟨p.value_pos, p.value_lt⟩

theorem ofNat?_eq_some_iff {n : Nat} {p : PageNumber} : ofNat? n = some p ↔ p.value = n := by
  constructor
  · intro h
    unfold ofNat? at h
    split at h
    · cases h; rfl
    · cases h
  · rintro rfl; exact ofNat?_value p

/-- A page is in the range iff its number is at most the total. -/
theorem mem_range {total : Nat} {p : PageNumber} : p ∈ range total ↔ p.value ≤ total := by
  have := p.value_pos
  simp only [range, List.mem_filterMap, List.mem_range'_1, ofNat?_eq_some_iff]
  constructor
  · rintro ⟨n, ⟨_, h⟩, rfl⟩; omega
  · intro h; exact ⟨p.value, ⟨by omega, by omega⟩, rfl⟩

/-- Places a page among ascending pages, unless it is there already. -/
def insert (p : PageNumber) : List PageNumber → List PageNumber
  | [] => [p]
  | q :: rest => if p < q then p :: q :: rest else if p = q then q :: rest else q :: insert p rest

theorem mem_insert {p q : PageNumber} {pages : List PageNumber} :
    q ∈ insert p pages ↔ q = p ∨ q ∈ pages := by
  induction pages with
  | nil => simp [insert]
  | cons r rest ih =>
    simp only [insert]
    split
    · simp
    · split
      · next h => subst h; simp
      · simp only [List.mem_cons, ih]
        constructor <;> (rintro (h | h | h) <;> simp [h])

theorem pairwise_insert (p : PageNumber) {pages : List PageNumber} (h : pages.Pairwise (· < ·)) :
    (p.insert pages).Pairwise (· < ·) := by
  induction pages with
  | nil => exact List.pairwise_singleton _ p
  | cons q rest ih =>
    obtain ⟨hq, hrest⟩ := List.pairwise_cons.mp h
    rw [insert]
    split
    · next hlt =>
      refine List.pairwise_cons.mpr ⟨fun r hr => ?_, h⟩
      rcases List.mem_cons.mp hr with rfl | hr
      · exact hlt
      · exact Nat.lt_trans hlt (hq r hr)
    · next hle =>
      split
      · exact h
      · next hne =>
        refine List.pairwise_cons.mpr ⟨fun r hr => ?_, ih hrest⟩
        rcases mem_insert.mp hr with rfl | hr
        · have hvalue : q.value ≠ r.value := fun h => hne (ext h.symm)
          rw [lt_def] at hle ⊢
          omega
        · exact hq r hr

/-- Pages that are placed one by one among ascending ones ascend. -/
theorem pairwise_foldl_insert (pages : List PageNumber) {sorted : List PageNumber}
    (h : sorted.Pairwise (· < ·)) :
    (pages.foldl (fun sorted p => p.insert sorted) sorted).Pairwise (· < ·) := by
  induction pages generalizing sorted with
  | nil => exact h
  | cons p rest ih => exact ih (pairwise_insert p h)

end PageNumber

def renderPages (pages : List PageNumber) : Text := Text.joined ", " (pages.map PageNumber.render)

end PageQuery
