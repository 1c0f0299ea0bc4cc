import PageQuery.Action.Printing

/-!
Doing an action with the selected pages of a document.
-/
namespace PageQuery.Document

variable {σ ω : Type}

def dispatch (d : Document σ ω) (settings : Settings) (service : PrintService σ)
    (occasion : Occasion) (action : Action) (selected : Selection) (query : Text) :
    StateM (Session σ) (Except Failure Outcome) := do
  Session.note .info .action ("dispatching " ++ action.name ++ " for "
    ++ Text.ofNat selected.size ++ " matched pages of " ++ d.path.render)
  match action with
  | .list =>
    Session.report .info ("matched pages: " ++ selected.render)
    pure (.ok (.listed selected))
  | .save => d.exportSelected selected query settings.outputDir occasion.time
  | .print => d.printSelected selected settings service occasion

end PageQuery.Document
