import PageQuery.Action.Copying
import PageQuery.Printing.Service
import PageQuery.Settings

/-!
Printing the selected pages by way of a temporary file, which is removed whatever happens.
-/
namespace PageQuery

/-- A temporary file. It is removed when it goes out of use, unless that was tried before. -/
structure TemporaryFile where
  path : Path
  removed : Bool := false
deriving DecidableEq, Repr

namespace TemporaryFile

variable {σ : Type}

/-- Removes a temporary file after printing; a failure is reported. -/
def cleanup (path : Path) : StateM (Session σ) Unit := do
  match ← Session.removeIfThere path with
  | .ok true => Session.note .debug .printing ("removed temporary file " ++ path.render)
  | .ok false => pure ()
  | .error e =>
    Session.note .warn .printing ("cannot remove " ++ path.render ++ ": " ++ e.message)
    Session.report .warning ("error while deleting temporary file: " ++ e.message)

/-- Removes a temporary file that is not printed; a failure is only recorded. -/
def discard (path : Path) : StateM (Session σ) Unit := do
  match ← Session.removeIfThere path with
  | .ok _ => pure ()
  | .error e => Session.note .warn .printing ("cannot remove " ++ path.render ++ ": " ++ e.message)

/-- Cleans up after printing. The removal is not tried again, whatever comes of it. -/
def close (file : TemporaryFile) : StateM (Session σ) TemporaryFile := do
  cleanup file.path
  pure { file with removed := true }

def drop (file : TemporaryFile) : StateM (Session σ) Unit :=
  if file.removed then pure () else discard file.path

end TemporaryFile

/-- What an action takes from its surroundings. -/
structure Occasion where
  time : Timestamp
  temporaryDir : Path
  /-- A token that no other temporary file has. -/
  token : Text
deriving DecidableEq, Repr

namespace Document

variable {σ ω : Type}

/-- Tells the user about the default printer. Whether printing goes on is the answer. -/
def confirmPrinter (settings : Settings) (probe : Probe) : StateM (Session σ) Bool := do
  if probe.isAvailable then
    Session.report .info probe.describe
    pure true
  else
    Session.report .warning probe.describe
    if settings.forcePrint then
      Session.report .info "continuing without a confirmed default printer..."
      pure true
    else
      Session.report .info "printing cancelled"
      pure false

/-- Tells the user what came of a print request. Whether it was accepted is the answer. -/
def reportSubmitted (service : PrintService σ) :
    Except Failure Bool → StateM (Session σ) Bool
  | .ok true => do
    Session.report .info "print request submitted"
    pure true
  | .ok false => do
    Session.report .warning "the print request was not accepted"
    pure false
  | .error failure => do
    Session.note .warn .printing ("print failed via " ++ service.id ++ ": " ++ failure.message)
    Session.report .error failure.message
    pure false

/-- Copies the selected pages into a temporary file and prints that; the file that is left to drop
comes with the result. -/
def printFrom (d : Document σ ω) (file : TemporaryFile) (selected : Selection)
    (service : PrintService σ) : StateM (Session σ) (Except Failure Outcome × TemporaryFile) := do
  Session.report .info ("temporary file: " ++ file.path.render)
  match ← d.copySelected file.path selected with
  | .error failure => pure (.error failure, file)
  | .ok copied =>
    if (← get).files.isFile file.path then
      let submitted ← Session.ask (.printFile file.path) (service.printFile file.path)
      let file ← file.close
      let accepted ← reportSubmitted service submitted
      pure (.ok (.printed accepted copied), file)
    else pure (.error (.cannotWrite file.path "temporary document was not created"), file)

def printThrough (d : Document σ ω) (path : Path) (selected : Selection)
    (service : PrintService σ) : StateM (Session σ) (Except Failure Outcome) := do
  let (result, file) ← d.printFrom { path } selected service
  file.drop
  pure result

def printSelected (d : Document σ ω) (selected : Selection) (settings : Settings)
    (service : PrintService σ) (occasion : Occasion) :
    StateM (Session σ) (Except Failure Outcome) := do
  Session.report .info "printing to the default printer..."
  let probe ← Session.ask .probe service.probe
  if ← confirmPrinter settings probe then
    let path := Naming.temporaryPath occasion.temporaryDir occasion.token d.extension
    d.printThrough path selected service
  else pure (.ok .printCancelled)

end Document
end PageQuery
