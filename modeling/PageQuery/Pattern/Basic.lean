import PageQuery.Pattern.Grammar
import PageQuery.Pattern.Meaning
import PageQuery.Pattern.Room

/-!
Patterns for texts. A pattern that is well written, and not too large, is a matcher.
-/
namespace PageQuery.Pattern

inductive Refusal where
  | problem (p : Problem)
  | tooLarge
deriving DecidableEq, Repr

def Refusal.message (pattern : Text) : Refusal → Text
  | problem p => p.render pattern
  | tooLarge => "Compiled regex exceeds size limit of " ++ Text.ofNat maxRoom ++ " bytes."

def compile (pattern : Text) : Except Refusal Matcher :=
  let matcher := do
    let node ← Node.parse pattern
    node.matcher {}
  match matcher with
  | .error p => .error (.problem p)
  | .ok (m, _) => if m.room ≤ maxRoom then .ok m else .error .tooLarge

end PageQuery.Pattern
