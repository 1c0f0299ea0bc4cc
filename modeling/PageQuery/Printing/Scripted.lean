import PageQuery.Printing.Service

/-!
Printers that follow a script and remember what they were asked to print.
-/
namespace PageQuery

structure Submission where
  path : Path
  isFile : Bool
  content : Option Text.Bytes
deriving DecidableEq, Repr

inductive PrintReply where
  | accept
  | reject
  /-- Remove the file and accept. -/
  | remove
  /-- Put a directory in the place of the file and accept. -/
  | block
  | fail (failure : Failure)
deriving DecidableEq, Repr

structure ScriptedPrinter where
  id : Text
  probe : Probe
  reply : PrintReply
deriving Repr

namespace ScriptedPrinter

def leave (reply : PrintReply) (path : Path) (files : FileTree) : FileTree :=
  match reply with
  | .remove => ((files.remove path).toOption).getD files
  | .block =>
    let removed := ((files.remove path).toOption).getD files
    ((removed.makeDirectory path).toOption).getD removed
  | _ => files

def answer : PrintReply → Except Failure Bool
  | .reject => .ok false
  | .fail failure => .error failure
  | _ => .ok true

/-- The printer as a run sees it. It remembers requests where `remember` puts them. -/
def toService {σ : Type} (remember : Submission → σ → σ) (p : ScriptedPrinter) :
    PrintService σ where
  id := p.id
  probe h := (p.probe, h)
  printFile path h :=
    let submission := ⟨path, h.files.isFile path, (h.files.read path).toOption⟩
    (answer p.reply,
      { h with files := leave p.reply path h.files, outside := remember submission h.outside })

end ScriptedPrinter
end PageQuery
