import PageQuery.Files.Tree
import PageQuery.Failure
import PageQuery.Json.Value
import PageQuery.Word

/-!
Settings of a run and their file format: an object in which every setting may be left out, or the
list of the settings in order, which may end early.
-/
namespace PageQuery

structure Settings where
  /-- Print although no default printer is known. -/
  forcePrint : Bool := false
  /-- How long the printed file is kept, in milliseconds. -/
  printGrace : Nat := 1000
  /-- How long the print command may take, in milliseconds. -/
  printWait : Nat := 5000
  /-- Where exports are written, if not beside the document. -/
  outputDir : Option Path := none
deriving DecidableEq, Repr

namespace Settings

open Json (Node Problem RawString)

def maxMilliseconds : Nat := Word.bound64 - 1

structure Given where
  forcePrint : Option Bool := none
  printGrace : Option Nat := none
  printWait : Option Nat := none
  outputDir : Option (Option Text) := none
deriving DecidableEq, Repr

def Given.toSettings (g : Given) : Settings :=
  let default : Settings := {}
  { forcePrint := g.forcePrint.getD default.forcePrint
    printGrace := g.printGrace.getD default.printGrace
    printWait := g.printWait.getD default.printWait
    outputDir := (g.outputDir.map (·.map Path.ofText)).getD default.outputDir }

inductive Field where
  | forcePrint
  | printGrace
  | printWait
  | outputDir
deriving DecidableEq, Repr

def Field.all : List Field := [.forcePrint, .printGrace, .printWait, .outputDir]

def Field.name : Field → Text
  | forcePrint => "forcePrintWithoutDefaultPrinter"
  | printGrace => "printGraceMs"
  | printWait => "printWaitMs"
  | outputDir => "outputDir"

def Field.ofName? (name : Text) : Option Field := Field.all.find? (·.name = name)

def Given.has (g : Given) : Field → Bool
  | .forcePrint => g.forcePrint.isSome
  | .printGrace => g.printGrace.isSome
  | .printWait => g.printWait.isSome
  | .outputDir => g.outputDir.isSome

def Given.put (g : Given) (field : Field) (value : Node) : Except Problem Given :=
  match field with
  | .forcePrint => value.toBool.map fun b => { g with forcePrint := some b }
  | .printGrace => (value.toNatural 0 maxMilliseconds "u64").map fun n =>
      { g with printGrace := some n }
  | .printWait => (value.toNatural 0 maxMilliseconds "u64").map fun n =>
      { g with printWait := some n }
  | .outputDir => (value.toText? "path string").map fun t => { g with outputDir := some t }

def Given.checkNew (g : Given) (name : Text) : Except Problem Unit :=
  match Field.ofName? name with
  | some field => if g.has field then .error (.duplicateField name) else .ok ()
  | none => .ok ()

/-- Reads the members of an object; unknown ones are passed over. -/
def ofMembers (g : Given) : List (RawString × Node) → Except Problem Given
  | [] => .ok g
  | (key, value) :: more => do
    let name ← key.text
    g.checkNew name
    match Field.ofName? name with
    | some field => ofMembers (← g.put field value) more
    | none =>
      value.skip
      ofMembers g more

/-- Reads the items of a list, each for the next setting. Items beyond the last are refused. -/
def ofItems (g : Given) : List Field → List Node → Json.ListEnd → Except Problem Given
  | [], [], ending => do
    ending.checkBehind
    pure g
  | [], _ :: _, _ => .error .trailingCharacters
  | _ :: _, [], ending => do
    ending.check
    pure g
  | field :: fields, item :: items, ending => do
    ofItems (← g.put field item) fields items ending

def ofNode : Node → Except Problem Settings
  | .object members ending => do
    let g ← ofMembers {} members
    ending.check g.checkNew
    pure g.toSettings
  | .list items ending => do
    pure (← ofItems {} Field.all items ending).toSettings
  | other => .error (other.mismatch "struct SiftConfig")

def parse (t : Text) : Except Problem Settings := Json.read ofNode (Json.symbolsOf t)

def boolText (b : Bool) : Text := if b then "true" else "false"

/-- The settings as a text, in the order of the fields. A directory whose bytes are no text has no
such form. -/
def render? (s : Settings) : Option Text := do
  let directory : Text ← match s.outputDir with
    | none => some "null"
    | some path => (Text.decode? path.bytes).map Json.quote
  let values : List (Field × Text) := [(.forcePrint, boolText s.forcePrint),
    (.printGrace, Text.ofNat s.printGrace), (.printWait, Text.ofNat s.printWait),
    (.outputDir, directory)]
  let members := values.map fun (field, value) => Json.quote field.name ++ ':' :: value
  pure ('\x7b' :: Text.joined "," members ++ ['\x7d'])

def load (files : FileTree) (path : Path) : Except Failure Settings :=
  match files.read path with
  | .error e => .error (.settings ("cannot read " ++ path.render ++ ": " ++ e.message))
  | .ok bytes => match Text.decode? bytes with
    | none =>
      .error (.settings ("cannot read " ++ path.render ++ ": " ++ SystemError.notText.message))
    | some t => match parse t with
      | .error problem => .error (.settings (path.render ++ ": " ++ problem.message))
      | .ok s => .ok s

end Settings
end PageQuery
