import PageQuery.Query.Parser

/-!
Queries ready for matching: the text as typed, and the expression that is compared with pages.
-/
namespace PageQuery.Query

structure Matcher where
  raw : Text
  expression : Expression
deriving Repr

namespace Matcher

def compile (query : Text) : Matcher := ⟨query, Expression.parse query⟩

/-- Whether the query holds of a page's text, letter case aside. -/
def accepts (m : Matcher) (page : Text) : Bool := m.expression.holds (Text.lower page)

end Matcher
end PageQuery.Query
