import PageQuery.Printing.Command
import PageQuery.Printing.Service
import PageQuery.Text.Blank

/-!
Printing by the commands of the system: one names the default printer, the other prints a file.
-/
namespace PageQuery

structure PrintCall where
  arguments : List Text.Bytes
  fileThere : Bool
deriving DecidableEq, Repr

structure SystemPrinter where
  /-- How long to wait for the print command, in milliseconds. -/
  limit : Nat
  /-- What the command that names the default printer writes. -/
  destination : Except SystemError Text.Bytes
  /-- How the print command runs. -/
  command : Except SystemError RunningCommand

namespace SystemPrinter

/-- What a line has to say before its first colon. -/
def destinationLabel : Text := "default destination"

def nameInLine? (line : Text) : Option Text :=
  match cutAt? ':' line with
  | none => none
  | some (label, name) =>
    let name := Text.trim name
    if occursIn destinationLabel label ∧ name ≠ [] then some name else none

/-- The default printer that an output names: the one in the first line that names one. -/
def defaultName? (output : Text) : Option Text := (Text.lines output).findSome? nameInLine?

def probeOf (output : Text.Bytes) : Probe :=
  match defaultName? (Text.decodeLossy output) with
  | some name => .available name
  | none => .missing

/-- Starting the print command. No command takes a zero byte in an argument. -/
def start (p : SystemPrinter) (path : Path) : Except SystemError RunningCommand :=
  if 0 ∈ path.bytes then .error .zeroInArgument else p.command

/-- The arguments of the print command; two hyphens keep the path from being taken for an option. -/
def arguments (path : Path) : List Text.Bytes := [Text.encode "--", path.bytes]

def stillRunning (limit : Nat) : Text :=
  "print command still running after " ++ Text.ofNat limit ++ " ms, continuing in the background"

/-- The commands as a run sees them. Calls are remembered where `remember` puts them. -/
def toService {σ : Type} (remember : PrintCall → σ → σ) (p : SystemPrinter) : PrintService σ where
  id := "cups"
  probe h := match p.destination with
    | .ok output => (probeOf output, h)
    | .error e =>
      (.unsupported, h.note .debug .system ("default printer probe failed: " ++ e.message))
  printFile path h := match p.start path with
    | .error e => (.error (.print ("cannot start print command: " ++ e.message)), h)
    | .ok command =>
      let call := ⟨arguments path, h.files.isFile path⟩
      let h := { h with outside := remember call h.outside }
      match (command.wait p.limit).status with
      | some status =>
        if status.isSuccess then (.ok true, h)
        else (.ok false, h.note .warn .system ("print command exited with " ++ status.render))
      | none => (.ok true, h.note .info .system (stillRunning p.limit))

end SystemPrinter
end PageQuery
