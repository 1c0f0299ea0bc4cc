import PageQuery.Action.Basic
import PageQuery.CommandLine.Environment
import PageQuery.Text.Style
import PageQuery.Word

/-!
The arguments of the program. Parameters are given by position or by name, in any order; three named
ones may also come from the environment. A value is checked when the next argument shows that it is
complete, so of two faults the earlier one is found first.
-/
namespace PageQuery.CommandLine

open Text (Bytes)

inductive Parameter where
  | document
  | query
  | action
  | force
  | grace
  | wait
  | outputDir
  | config
  | quiet
  | help
  | version
deriving DecidableEq, Repr

namespace Parameter

def positional : List Parameter := [document, query, action]

def longNames : List (String × Parameter) := [
  ("force-print-without-default-printer", force), ("print-grace-ms", grace),
  ("print-wait-ms", wait), ("output-dir", outputDir), ("config", config), ("quiet", quiet),
  ("help", help), ("version", version)]

def shortNames : List (Char × Parameter) := [('q', quiet), ('h', help), ('V', version)]

def takesValue : Parameter → Bool
  | grace | wait | outputDir | config => true
  | _ => false

def mayStartWithHyphen : Parameter → Bool
  | query | action => true
  | _ => false

def label : Parameter → Text
  | document => "<DOCUMENT>"
  | query => "<QUERY>"
  | action => "<ACTION>"
  | force => "--force-print-without-default-printer"
  | grace => "--print-grace-ms <MS>"
  | wait => "--print-wait-ms <MS>"
  | outputDir => "--output-dir <DIR>"
  | config => "--config <FILE>"
  | quiet => "--quiet"
  | help => "--help"
  | version => "--version"

def variableNames : List (Parameter × String) := [
  (force, "PAGESIFT_FORCE_PRINT"), (grace, "PAGESIFT_PRINT_GRACE_MS"),
  (wait, "PAGESIFT_PRINT_WAIT_MS"), (outputDir, "PAGESIFT_OUTPUT_DIR")]

end Parameter

inductive UsageProblem where
  | valueRequired (p : Parameter)
  | repeated (p : Parameter)
  | unexpectedArgument (argument : Text)
  | unexpectedValue (value : Text) (p : Parameter)
  | invalidValue (value : Text) (p : Parameter) (reason : Option Text)
  | notText
  | missing
deriving DecidableEq, Repr

def singleQuoted (style : Text.Style) (t : Text) : Text := '\'' :: style.paint t ++ ['\'']

/-- What was given, as messages show it. -/
def given (t : Text) : Text := singleQuoted .yellow t

/-- What may be given, as messages show it. -/
def possible (t : Text) : Text := singleQuoted .bold t

def UsageProblem.message : UsageProblem → Text
  | valueRequired p => "a value is required for " ++ given p.label ++ " but none was supplied"
  | repeated p => "the argument " ++ given p.label ++ " cannot be used multiple times"
  | unexpectedArgument argument => "unexpected argument " ++ given argument ++ " found"
  | unexpectedValue value p =>
    "unexpected value " ++ given value ++ " for " ++ possible p.label
      ++ " found; no more were expected"
  | invalidValue value p reason =>
    let because : Text := match reason with
      | some reason => ": " ++ reason
      | none => ""
    "invalid value " ++ given value ++ " for " ++ possible p.label ++ because
  | notText => "invalid UTF-8 was detected in one or more arguments"
  | missing => "the following required arguments were not provided:"

def UsageProblem.render (problem : UsageProblem) : Text :=
  Text.Style.alarm.paint "error:" ++ ' ' :: problem.message
    ++ "\n\nFor more information, try " ++ possible "--help" ++ ".\n"

/-- Why the program does not start its work. -/
inductive Stop where
  | help
  | version
  /-- Nothing was given at all. -/
  | nothingGiven
  | usage (problem : UsageProblem)
deriving DecidableEq, Repr

structure Given where
  document : Option Path := none
  query : Option Text := none
  action : Option Action := none
  force : Option Bool := none
  grace : Option Nat := none
  wait : Option Nat := none
  outputDir : Option Path := none
  config : Option Path := none
  quiet : Bool := false
deriving DecidableEq, Repr

/-- Reads the digits of a number below `2 ^ 64`; an error is the reason why there is none. -/
def wordOfDigits (n : Nat) : Text → Except Text Nat
  | [] => .ok n
  | c :: rest =>
    if !c.isDigit then .error "invalid digit found in string"
    else
      let n' := n * 10 + (c.toNat - '0'.toNat)
      if n' < Word.bound64 then wordOfDigits n' rest
      else .error "number too large to fit in target type"

/-- Reads a number below `2 ^ 64`, which may have a plus sign. -/
def word (t : Text) : Except Text Nat :=
  match t with
  | [] => .error "cannot parse integer from empty string"
  | ['+'] => .error "invalid digit found in string"
  | '+' :: digits => wordOfDigits 0 digits
  | digits => wordOfDigits 0 digits

namespace Given

def has (g : Given) : Parameter → Bool
  | .document => g.document.isSome
  | .query => g.query.isSome
  | .action => g.action.isSome
  | .force => g.force.isSome
  | .grace => g.grace.isSome
  | .wait => g.wait.isSome
  | .outputDir => g.outputDir.isSome
  | .config => g.config.isSome
  | .quiet => g.quiet
  | .help | .version => false

def text (value : Bytes) : Except Stop Text :=
  match Text.decode? value with
  | some t => .ok t
  | none => .error (.usage .notText)

/-- The path that a value is; it is not empty. -/
def path (p : Parameter) (value : Bytes) : Except Stop Path :=
  if value = [] then .error (.usage (.valueRequired p)) else .ok ⟨value⟩

def number (p : Parameter) (value : Bytes) : Except Stop Nat := do
  let t ← text value
  match word t with
  | .ok n => pure n
  | .error reason => throw (.usage (.invalidValue t p (some reason)))

def truth (p : Parameter) (value : Bytes) : Except Stop Bool :=
  if value = Text.encode "true" then .ok true
  else if value = Text.encode "false" then .ok false
  else if value = [] then .error (.usage (.valueRequired p))
  else .error (.usage (.invalidValue (Text.decodeLossy value) p none))

def put (g : Given) (p : Parameter) (value : Bytes) : Except Stop Given := do
  match p with
  | .document => pure { g with document := some (← path p value) }
  | .query => pure { g with query := some (← text value) }
  | .action =>
    let t ← text value
    match Action.ofKeyword t with
    | .ok action => pure { g with action := some action }
    | .error _ => throw (.usage (.invalidValue t p (some (Action.unknown t))))
  | .force => pure { g with force := some (← truth p value) }
  | .grace => pure { g with grace := some (← number p value) }
  | .wait => pure { g with wait := some (← number p value) }
  | .outputDir => pure { g with outputDir := some (← path p value) }
  | .config => pure { g with config := some (← path p value) }
  | .quiet => pure { g with quiet := true }
  | .help => throw .help
  | .version => throw .version

def putOnce (g : Given) (p : Parameter) (value : Bytes) : Except Stop Given :=
  if g.has p then .error (.usage (.repeated p)) else g.put p value

def isEmpty (g : Given) : Bool := g = {}

end Given

/-- The state of reading: a value that was met but not checked, or a name whose value is due. -/
structure Reading where
  given : Given := {}
  pending : Option (Parameter × Option Bytes) := none
  /-- The parameters that are still to be given by position. -/
  places : List Parameter := Parameter.positional

namespace Reading

/-- Checks the value that was met last. -/
def settle (r : Reading) : Except Stop Reading :=
  match r.pending with
  | none => .ok r
  | some (p, none) => .error (.usage (.valueRequired p))
  | some (p, some value) => do
    pure { r with given := ← r.given.putOnce p value, pending := none }

/-- The name whose value is due. -/
def awaited? (r : Reading) : Option Parameter :=
  match r.pending with
  | some (p, none) => some p
  | _ => none

/-- Whether an argument that starts with a hyphen and is no name may be a value here. -/
def hyphenAllowed (r : Reading) : Bool :=
  match r.places with
  | p :: _ => p.mayStartWithHyphen
  | [] => false

def takePlace (r : Reading) (argument : Bytes) : Except Stop Reading :=
  match r.places with
  | [] => .error (.usage (.unexpectedArgument (Text.decodeLossy argument)))
  | p :: places => do
    let r ← r.settle
    pure { r with pending := some (p, some argument), places }

def takeSwitch (r : Reading) (p : Parameter) : Except Stop Reading := do
  let r ← r.settle
  pure { r with given := ← r.given.putOnce p (Text.encode "true") }

def takeName (r : Reading) (p : Parameter) (attached : Option Bytes) : Except Stop Reading :=
  match p.takesValue, attached with
  | true, some value => do
    let r ← r.settle
    pure { r with given := ← r.given.putOnce p value }
  | true, none => do
    let r ← r.settle
    pure { r with pending := some (p, none) }
  | false, some value => .error (.usage (.unexpectedValue (Text.decodeLossy value) p))
  | false, none => r.takeSwitch p

/-- Takes an argument that is no name: the value that is due, or one by position. -/
def takeValue (r : Reading) (argument : Bytes) : Except Stop Reading :=
  match r.awaited? with
  | some p => .ok { r with pending := some (p, some argument) }
  | none => r.takePlace argument

/-- Takes an argument that starts with two hyphens, which are left out. -/
def takeLong (r : Reading) (argument body : Bytes) : Except Stop Reading :=
  let (name, attached) : Bytes × Option Bytes := match cutAt? 0x3D body with
    | some (name, value) => (name, some value)
    | none => (body, none)
  match Text.decode? name with
  | none => .error (.usage (.unexpectedArgument ("--" ++ Text.decodeLossy name)))
  | some t => match Parameter.longNames.find? fun (long, _) => long.toList = t with
    | some (_, p) => r.takeName p attached
    | none =>
      if r.hyphenAllowed then r.takeValue argument
      else .error (.usage (.unexpectedArgument ("--" ++ t)))

/-- Takes letters one after another. The first symbol that is none ends the reading. -/
def takeLetters (r : Reading) : List Text.Symbol → Except Stop Reading
  | [] => .ok r
  | .char c :: more => match Parameter.shortNames.lookup c with
    | some p => do takeLetters (← r.takeSwitch p) more
    | none => .error (.usage (.unexpectedArgument ['-', c]))
  | rest => .error (.usage (.unexpectedArgument
      ('-' :: Text.decodeLossy (rest.flatMap Text.Symbol.encode))))

def isLetter : Text.Symbol → Bool
  | .char c => (Parameter.shortNames.lookup c).isSome
  | .stray _ => false

/-- Takes an argument that starts with one hyphen, which is left out. -/
def takeShort (r : Reading) (argument body : Bytes) : Except Stop Reading :=
  let letters := Text.symbols body
  if r.hyphenAllowed ∧ !letters.all isLetter then r.takeValue argument
  else r.takeLetters letters

def take (r : Reading) (argument : Bytes) : Except Stop Reading :=
  match argument with
  | 0x2D :: 0x2D :: body => r.takeLong argument body
  | 0x2D :: b :: body => r.takeShort argument (b :: body)
  | _ => r.takeValue argument

/-- Takes all arguments. After two hyphens alone only positions count. -/
def takeAll (r : Reading) (onlyPlaces : Bool) : List Bytes → Except Stop Reading
  | [] => r.settle
  | argument :: more =>
    if onlyPlaces then do takeAll (← r.takePlace argument) true more
    else if argument = Text.encode "--" then takeAll r true more
    else do takeAll (← r.take argument) false more

end Reading

/-- Adds the parameters that only the environment gives. -/
def addVariables (environment : Environment) (g : Given) :
    List (Parameter × String) → Except Stop Given
  | [] => .ok g
  | (p, name) :: more => do
    match g.has p, environment.value? name with
    | false, some value => addVariables environment (← g.put p value) more
    | _, _ => addVariables environment g more

/-- Older spellings of the help and the version, which are understood in the first place only. -/
def modernize (arguments : List Bytes) : List Bytes :=
  match arguments with
  | first :: more =>
    if first = Text.encode "-help" ∨ first = Text.encode "/?" then Text.encode "--help" :: more
    else if first = Text.encode "-version" then Text.encode "--version" :: more
    else arguments
  | [] => []

structure Request where
  document : Path
  query : Text
  action : Action
  given : Given
deriving DecidableEq, Repr

def Request.read (environment : Environment) (arguments : List Bytes) : Except Stop Request := do
  let r ← Reading.takeAll {} false (modernize arguments)
  let given ← addVariables environment r.given Parameter.variableNames
  if given.isEmpty then throw .nothingGiven
  match given.document, given.query, given.action with
  | some document, some query, some action => pure { document, query, action, given }
  | _, _, _ => throw (.usage .missing)

end PageQuery.CommandLine
