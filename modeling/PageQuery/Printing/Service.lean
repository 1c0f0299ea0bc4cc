import PageQuery.Failure
import PageQuery.Session

/-!
What a run asks of a printer: whether there is a default one, and to print a file.
-/
namespace PageQuery

inductive Probe where
  | available (name : Text)
  | missing
  | unsupported
deriving DecidableEq, Repr

namespace Probe

def isAvailable : Probe → Bool
  | available _ => true
  | _ => false

def describe : Probe → Text
  | available name => "default printer: " ++ name
  | missing => "no default printer is configured"
  | unsupported => "the default printer cannot be detected on this platform"

end Probe

structure PrintService (σ : Type) where
  id : Text
  probe : Host σ → Probe × Host σ
  /-- Prints the file at a path; tells whether the request was accepted. -/
  printFile : Path → Host σ → Except Failure Bool × Host σ

namespace PrintService

def unsupported {σ : Type} : PrintService σ where
  id := "unsupported"
  probe h := (.unsupported, h)
  printFile _ h := (.error (.print "printing is not supported on this platform"), h)

end PrintService
end PageQuery
