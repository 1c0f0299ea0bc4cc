import PageQuery.Action.Dispatch
import PageQuery.Document.Pdf
import PageQuery.Scan
import PageQuery.Text.Quoted

/-!
A run: scan a document for a query, then do an action with the pages found, if there are any.
-/
namespace PageQuery

structure Summary where
  scan : ScanOutcome
  /-- What came of the action; there is none without a page. -/
  outcome : Option Outcome
deriving DecidableEq, Repr

namespace Document

variable {σ ω : Type}

def run (d : Document σ ω) (query : Text) (action : Action) (settings : Settings)
    (service : PrintService σ) (occasion : Occasion) :
    StateM (Session σ) (Except Failure Summary) := do
  let m := Query.Matcher.compile query
  Session.note .debug .run
    ("query " ++ Text.quoted m.raw ++ " compiled to `" ++ m.expression.render ++ "`")
  let scan ← d.scan m
  if scan.selected.isEmpty then
    Session.report .info "no matching pages found"
    pure (.ok { scan, outcome := none })
  else
    Session.report .info (Text.ofNat scan.selected.size ++ " pages matched")
    let result ← d.dispatch settings service occasion action scan.selected m.raw
    pure (result.map fun outcome => { scan, outcome := some outcome })

end Document

def runAt {σ : Type} (lib : PdfLibrary) (path : Path) (query : Text) (action : Action)
    (settings : Settings) (service : PrintService σ) (occasion : Occasion) :
    StateM (Session σ) (Except Failure Summary) := do
  match ← Session.act (PdfDocument.openAt lib path) with
  | .error failure => pure (.error failure)
  | .ok d => d.toDocument.run query action settings service occasion

end PageQuery
