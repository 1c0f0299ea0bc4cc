import PageQuery.Proofs.Text.LetterCase
import PageQuery.Query.Matcher

/-!
The case of letters does not matter to a query, neither in the query nor on the page.
-/
namespace PageQuery.Query

theorem Expression.parse_lower (query : Text) : parse (Text.lower query) = parse query := by
  rw [parse, Text.lower_lower, parse]

theorem Expression.parse_of_sameLetters {query query' : Text}
    (h : Text.SameLetters query query') : parse query' = parse query := by
  rw [parse, h.lower_eq, parse]

/-- Queries and pages may be lower-cased beforehand, and any of their ASCII letters may be written in
the other case. -/
theorem accepts_ignores_letterCase (query page : Text) :
    (Matcher.compile (Text.lower query)).accepts page = (Matcher.compile query).accepts page ∧
    (Matcher.compile query).accepts (Text.lower page) = (Matcher.compile query).accepts page ∧
    ∀ query' page', Text.SameLetters query query' → Text.SameLetters page page' →
      (Matcher.compile query').accepts page' = (Matcher.compile query).accepts page := by
  refine ⟨?_, ?_, ?_⟩
  · simp only [Matcher.accepts, Matcher.compile, Expression.parse_lower]
  · simp only [Matcher.accepts, Text.lower_lower]
  · intro query' page' hquery hpage
    simp only [Matcher.accepts, Matcher.compile, Expression.parse_of_sameLetters hquery,
      hpage.lower_eq]

/-- Letters are changed on both sides of a capital sigma, and in front of the operator. -/
theorem accepts_ignores_letterCase_sigma :
    Text.SameLetters "xΣ & İa".toList "XΣ & İA".toList ∧
    Text.SameLetters "İA xΣ".toList "İa XΣ".toList ∧
    (Matcher.compile "XΣ & İA".toList).accepts "İa XΣ".toList =
      (Matcher.compile "xΣ & İa".toList).accepts "İA xΣ".toList ∧
    (Matcher.compile "xΣ & İa".toList).accepts "İA xΣ".toList = true := by
  have hquery : Text.SameLetters "xΣ & İa".toList "XΣ & İA".toList := by
    unfold Text.SameLetters
    decide
  have hpage : Text.SameLetters "İA xΣ".toList "İa XΣ".toList := by
    unfold Text.SameLetters
    decide
  exact ⟨hquery, hpage, (accepts_ignores_letterCase _ _).2.2 _ _ hquery hpage, by decide +kernel⟩

end PageQuery.Query
