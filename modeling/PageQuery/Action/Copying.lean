import PageQuery.Action.Basic
import PageQuery.Action.Naming
import PageQuery.Document.Basic

/-!
Copying the selected pages into a new document, and the export, which keeps that document. A page
that cannot be copied is reported and left out; an export that fails leaves no file behind.
-/
namespace PageQuery

namespace Document

variable {σ ω : Type}

/-- Copies pages one after another, up to a failure that is not recoverable. -/
def copyPages (d : Document σ ω) (destination : Path) (writer : ω) (copied : CopyReport) :
    List PageNumber → StateM (Session σ) (Except Failure CopyReport × ω)
  | [] => pure (.ok copied, writer)
  | page :: more => do
    let (result, writer) ← Session.ask (.copyPage page) (d.copyPage page writer)
    match result with
    | .ok () =>
      d.copyPages destination writer { copied with copied := copied.copied ++ [page] } more
    | .error failure =>
      if failure.isRecoverable then
        let cause := failure.copyCause
        Session.note .warn .copying
          ("skipping page " ++ page.render ++ " in " ++ destination.render ++ ": " ++ cause)
        Session.report .warning ("error while copying page " ++ page.render ++ ": " ++ cause)
        d.copyPages destination writer { copied with skipped := copied.skipped ++ [page] } more
      else pure (.error failure, writer)

def copySelected (d : Document σ ω) (destination : Path) (selected : Selection) :
    StateM (Session σ) (Except Failure CopyReport) := do
  Session.report .info ("copying pages: " ++ selected.render)
  match ← Session.ask (.create destination) (d.create destination) with
  | .error failure => pure (.error failure)
  | .ok writer =>
    let (result, writer) ← d.copyPages destination writer {} selected.pages
    match result with
    | .error failure => pure (.error failure)
    | .ok copied =>
      match ← Session.ask .finish (d.finish writer) with
      | .error failure => pure (.error failure)
      | .ok () => pure (.ok copied)

def exportSelected (d : Document σ ω) (selected : Selection) (query : Text)
    (directory : Option Path) (time : Timestamp) :
    StateM (Session σ) (Except Failure Outcome) := do
  let path := Naming.exportPath (← get).files d.path directory query time d.extension
  match ← d.copySelected path selected with
  | .ok copied =>
    Session.report .info ("filtered document saved: " ++ path.render)
    pure (.ok (.exported path copied))
  | .error failure =>
    match ← Session.removeIfThere path with
    | .ok _ => pure ()
    | .error e =>
      Session.note .warn .copying
        ("cannot remove partial export " ++ path.render ++ ": " ++ e.message)
    pure (.error failure)

end Document
end PageQuery
