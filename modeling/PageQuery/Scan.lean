import PageQuery.Document.Basic
import PageQuery.Page.Selection
import PageQuery.Query.Matcher

/-!
The scan of a document: every page is read and compared with the query. A page that cannot be read
is reported and passed over.
-/
namespace PageQuery

structure PageFailure where
  page : PageNumber
  cause : Text
deriving DecidableEq, Repr

structure ScanOutcome where
  total : Nat := 0
  selected : Selection := .empty
  failures : List PageFailure := []
deriving DecidableEq, Repr

namespace Document

variable {σ ω : Type}

def pageMatches (d : Document σ ω) (m : Query.Matcher) (page : PageNumber) :
    Except Failure Bool :=
  (d.extractText page).map m.accepts

def scanPages (d : Document σ ω) (m : Query.Matcher) (found : ScanOutcome) :
    List PageNumber → StateM (Session σ) ScanOutcome
  | [] => pure found
  | page :: more => do
    Session.record (d.extractionLog page)
    match d.pageMatches m page with
    | .ok true =>
      Session.note .debug .scan ("page " ++ page.render ++ " matches " ++ m.expression.render)
      scanPages d m { found with selected := (found.selected.push page).2 } more
    | .ok false => scanPages d m found more
    | .error failure =>
      let cause := failure.extractionCause
      Session.note .warn .scan ("skipping page " ++ page.render ++ ": " ++ cause)
      Session.report .warning
        ("error while processing page " ++ page.render ++ ": " ++ cause)
      scanPages d m { found with failures := found.failures ++ [⟨page, cause⟩] } more

def scan (d : Document σ ω) (m : Query.Matcher) : StateM (Session σ) ScanOutcome := do
  Session.report .info ("searching " ++ Text.ofNat d.pageCount ++ " pages...")
  d.scanPages m { total := d.pageCount } (PageNumber.range d.pageCount)

end Document
end PageQuery
