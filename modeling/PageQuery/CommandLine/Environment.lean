import PageQuery.Files.Path

/-!
The variables of the environment in which the program runs.
-/
namespace PageQuery.CommandLine

open Text (Bytes)

abbrev Environment := List (Text × Bytes)

namespace Environment

def value? (e : Environment) (name : String) : Option Bytes := e.lookup name.toList

def temporaryName : String := "TMPDIR"

def temporaryDir (e : Environment) : Path :=
  match e.value? temporaryName with
  | some bytes => ⟨bytes⟩
  | none => .ofText "/tmp"

def logName : String := "RUST_LOG"

def logStyleName : String := "RUST_LOG_STYLE"

/-- The variable that, unless it is empty, switches styles off. -/
def noStylesName : String := "NO_COLOR"

/-- The variable that, unless it is empty, switches styles on. -/
def stylesName : String := "CLICOLOR_FORCE"

def isFilled (e : Environment) (name : String) : Bool :=
  match e.value? name with
  | some value => value ≠ []
  | none => false

/-- Whether messages have styles; the streams are no terminals. -/
def hasStyles (e : Environment) : Bool := !e.isFilled noStylesName && e.isFilled stylesName

def hasLogStyles (e : Environment) : Bool :=
  if e.value? logStyleName = some (Text.encode "always") then true
  else if e.value? logStyleName = some (Text.encode "never") then false
  else e.hasStyles

end Environment
end PageQuery.CommandLine
