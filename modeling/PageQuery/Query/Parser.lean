import PageQuery.Query.Expression
import PageQuery.Text.Blank
import PageQuery.Text.Lowercase

/-!
Reading a query. The text is lower-cased and cut at `|`, and each segment at `&`; there are no
brackets and no quotes, so neither operator can be searched for. Every text is a query.
-/
namespace PageQuery.Query.Expression

/-- Reads a text without `|`: the parts between `&`, or the whole text as one literal. -/
def ofSegment (segment : Text) : Expression :=
  if allOperator ∈ segment then
    .all ((pieces allOperator segment).map fun part => .literal (Text.trim part))
  else .literal segment

/-- Reads a lower-cased query: the segments between `|`, or one segment as it stands. -/
def ofLowered (query : Text) : Expression :=
  if anyOperator ∈ query then
    .any ((pieces anyOperator query).map fun segment => ofSegment (Text.trim segment))
  else ofSegment query

def parse (query : Text) : Expression := ofLowered (Text.lower query)

end PageQuery.Query.Expression
