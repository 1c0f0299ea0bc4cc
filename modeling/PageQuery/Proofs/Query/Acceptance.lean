import PageQuery.Proofs.Text.Casing
import PageQuery.Query.Matcher

/-!
What a query asks of a page. The reader lower-cases the whole query before it cuts and trims it; the
meaning is stated on the query as typed, whose parts are trimmed and lower-cased one by one.
-/
namespace PageQuery.Query

/-- Whether a query is met when `shows` tells which texts are found. Of the segments between `|` one
has to show each of its parts between `&`, without the white space around it. A query without
operators is one text, which is not trimmed. -/
def MetBy (shows : Text → Prop) (query : Text) : Prop :=
  if Expression.anyOperator ∈ query ∨ Expression.allOperator ∈ query then
    ∃ segment ∈ pieces Expression.anyOperator query,
      ∀ part ∈ pieces Expression.allOperator segment, shows (Text.trim part)
  else shows query

instance (shows : Text → Prop) [DecidablePred shows] (query : Text) :
    Decidable (MetBy shows query) :=
  inferInstanceAs (Decidable
    (if Expression.anyOperator ∈ query ∨ Expression.allOperator ∈ query then
    ∃ segment ∈ pieces Expression.anyOperator query,
      ∀ part ∈ pieces Expression.allOperator segment, shows (Text.trim part)
    else shows query))

theorem MetBy.mono {shows shows' : Text → Prop} (h : ∀ part, shows part → shows' part)
    {query : Text} (hq : MetBy shows query) : MetBy shows' query := by
  unfold MetBy at *
  split_ifs at * with hop
  · obtain ⟨segment, hs, hparts⟩ := hq
    exact ⟨segment, hs, fun part hp => h _ (hparts part hp)⟩
  · exact h _ hq

/-- Lower-casing the whole query comes to the same as lower-casing each part by itself. -/
theorem metBy_lower_iff (shows : Text → Prop) (query : Text) :
    MetBy shows (Text.lower query) ↔ MetBy (fun part => shows (Text.lower part)) query := by
  have hbar : Text.Inert Expression.anyOperator := Text.inert_bar
  have hand : Text.Inert Expression.allOperator := Text.inert_ampersand
  simp only [MetBy, hbar.mem_lower_iff, hand.mem_lower_iff, hbar.pieces_lower, List.mem_map,
    exists_exists_and_eq_and, hand.pieces_lower, forall_exists_index, and_imp,
    forall_apply_eq_imp_iff₂, Text.trim_lower]

namespace Expression

/-- The operands of a query are read by the same rule as the query: each of them, without the white
space around it, is cut where it has an operator. -/
theorem ofLowered_eq_cut (query : Text) :
    ofLowered query =
      if anyOperator ∈ query then
        .any ((pieces anyOperator query).map fun operand => ofLowered (Text.trim operand))
      else if allOperator ∈ query then
        .all ((pieces allOperator query).map fun operand => ofLowered (Text.trim operand))
      else .literal query := by
  have hbar : Text.isBlank anyOperator = false := by decide
  have hand : Text.isBlank allOperator = false := by decide
  have huncut (operand : Text) (h : anyOperator ∉ operand) :
      ofLowered (Text.trim operand) = ofSegment (Text.trim operand) := by
    rw [ofLowered, if_neg (mt (Text.mem_trim_iff hbar operand).mp h)]
  rw [ofLowered]
  split_ifs with hany hall
  · congr 1
    refine List.map_congr_left fun segment hs => (huncut segment ?_).symm
    exact fun hmem => (mem_of_mem_pieces hs hmem).2 rfl
  · rw [ofSegment, if_pos hall]
    congr 1
    refine List.map_congr_left fun part hp => ?_
    have hpart : allOperator ∉ Text.trim part := fun hmem =>
      (mem_of_mem_pieces hp ((Text.mem_trim_iff hand part).mp hmem)).2 rfl
    rw [huncut part fun hmem => hany (mem_of_mem_pieces hp hmem).1, ofSegment, if_neg hpart]
  · rw [ofSegment, if_neg hall]

theorem holds_literal (text needle : Text) :
    (literal needle).holds text = true ↔ needle <:+: text := by
  rw [holds, occursIn_iff]

theorem holds_all_parts (text segment : Text) :
    (all ((pieces allOperator segment).map fun part => .literal (Text.trim part))).holds text =
        true ↔
      ∀ part ∈ pieces allOperator segment, Text.trim part <:+: text := by
  simp only [holds_all, List.all_map, List.all_eq_true, Function.comp_apply, holds_literal]

/-- The white space around a segment does not matter, with or without `&` in it. -/
theorem holds_ofSegment_trim (text segment : Text) :
    (ofSegment (Text.trim segment)).holds text = true ↔
      ∀ part ∈ pieces allOperator segment, Text.trim part <:+: text := by
  have hblank : Text.isBlank allOperator = false := by decide
  unfold ofSegment
  split_ifs with h <;> rw [Text.mem_trim_iff hblank] at h
  · have hmap (parts : List Text) : (∀ part ∈ parts, Text.trim part <:+: text) ↔
        ∀ part ∈ parts.map Text.trim, part <:+: text := by simp
    rw [holds_all_parts, hmap, hmap, Text.map_trim_pieces_trim hblank]
  · rw [pieces_of_notMem h, List.forall_mem_singleton, holds_literal]

/-- A lower-cased query holds of a text that meets it. -/
theorem holds_ofLowered (text query : Text) :
    (ofLowered query).holds text = true ↔ MetBy (· <:+: text) query := by
  unfold ofLowered MetBy
  split_ifs with hbar hop hop
  · simp only [holds_any, List.any_map, List.any_eq_true, Function.comp_apply, holds_ofSegment_trim]
  · exact absurd (.inl hbar) hop
  · have hand : allOperator ∈ query := hop.resolve_left hbar
    rw [pieces_of_notMem hbar, ofSegment, if_pos hand, holds_all_parts]
    simp
  · have hand : allOperator ∉ query := fun h => hop (.inr h)
    rw [ofSegment, if_neg hand, holds_literal]

end Expression

/-- A query accepts a page iff one of its segments has every part, trimmed and lower-cased by
itself, in the lower-cased page. -/
theorem compile_accepts_iff (query page : Text) :
    (Matcher.compile query).accepts page = true ↔
      MetBy (fun part => Text.lower part <:+: Text.lower page) query := by
  rw [Matcher.accepts, Matcher.compile, Expression.parse, Expression.holds_ofLowered,
    metBy_lower_iff]

end PageQuery.Query
