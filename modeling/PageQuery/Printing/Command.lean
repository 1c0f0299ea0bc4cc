import PageQuery.Text.Basic

/-!
Commands that run beside the program: how they end, and waiting for the end up to a limit. A clock
counts milliseconds from the start of the command; it advances by the time between two looks.
-/
namespace PageQuery

inductive ExitStatus where
  | code (n : Nat)
  | signal (number : Nat)
deriving DecidableEq, Repr

namespace ExitStatus

def isSuccess (s : ExitStatus) : Bool := s = code 0

def signalNames : List String := [
  "SIGHUP", "SIGINT", "SIGQUIT", "SIGILL", "SIGTRAP", "SIGABRT", "SIGBUS", "SIGFPE", "SIGKILL",
  "SIGUSR1", "SIGSEGV", "SIGUSR2", "SIGPIPE", "SIGALRM", "SIGTERM", "SIGSTKFLT", "SIGCHLD",
  "SIGCONT", "SIGSTOP", "SIGTSTP", "SIGTTIN", "SIGTTOU", "SIGURG", "SIGXCPU", "SIGXFSZ",
  "SIGVTALRM", "SIGPROF", "SIGWINCH", "SIGIO", "SIGPWR", "SIGSYS"]

def signalName (number : Nat) : Text :=
  match number with
  | 0 => ""
  | n + 1 => match signalNames[n]? with
    | some name => " (" ++ name ++ ")"
    | none => ""

def render : ExitStatus → Text
  | code n => "exit status: " ++ Text.ofNat n
  | signal number => "signal: " ++ Text.ofNat number ++ signalName number

end ExitStatus

/-- A command that was started: when it ends, if ever, and how. -/
structure RunningCommand where
  endsAt : Option Nat
  status : ExitStatus
deriving DecidableEq, Repr

namespace RunningCommand

def hasEnded (c : RunningCommand) (now : Nat) : Bool :=
  match c.endsAt with
  | some moment => moment ≤ now
  | none => false

/-- The milliseconds between two looks. -/
def interval : Nat := 100

/-- What waiting came to: the number of looks, and the status if the end was seen. -/
structure Waited where
  looks : Nat
  status : Option ExitStatus
deriving DecidableEq, Repr

/-- Looks at the command until it has ended or the time is up; it is looked at first. -/
def waitFrom (c : RunningCommand) (limit now looks : Nat) : Waited :=
  if c.hasEnded now then ⟨looks + 1, some c.status⟩
  else if limit ≤ now then ⟨looks + 1, none⟩
  else waitFrom c limit (now + interval) (looks + 1)
termination_by limit - now
decreasing_by simp only [interval]; omega

def wait (c : RunningCommand) (limit : Nat) : Waited := c.waitFrom limit 0 0

end RunningCommand
end PageQuery
