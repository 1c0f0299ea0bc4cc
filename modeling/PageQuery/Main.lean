import PageQuery.CommandLine.LogFilter
import PageQuery.CommandLine.Program
import PageQuery.Pdf.File
import PageQuery.Printing.System
import Std.Time

/-!
The program on a terminal. The part of the file system that a request is about is read into a tree,
the program runs on the tree, and what it changed is written back. No command can be started from
here, so printing ends as it does where there is no print command.
-/
namespace PageQuery.Terminal

open CommandLine (Environment Given)

def variableNames : List String :=
  [Environment.logName, Environment.logStyleName, Environment.noStylesName, Environment.stylesName,
    Environment.temporaryName] ++ CommandLine.Parameter.variableNames.map (·.2)

def readEnvironment : IO Environment := do
  let found ← variableNames.mapM fun name => do
    pure ((← IO.getEnv name).map fun value => (name.toList, Text.encode value.toList))
  pure (found.filterMap id)

def keyOf (start : TreeKey) (segments : List Text.Bytes) : TreeKey :=
  segments.foldl (fun key segment =>
    if segment = [] ∨ segment = Path.current then key
    else if segment = Path.above then key.dropLast
    else key ++ [segment]) start

def placeName (key : TreeKey) : String :=
  String.ofList ('/' :: Text.joined "/" (key.map Text.decodeLossy))

def addPlace (files : FileTree) (key : TreeKey) : IO FileTree := do
  let place := (← IO.currentDir) / placeName key
  if ← place.isDir then pure (files.put key .directory)
  else if ← place.pathExists then
    let content ← IO.FS.readBinFile place
    pure (files.put key (.file content.toList))
  else pure files

def addPath (files : FileTree) (path : Path) : IO FileTree := do
  let start := if path.isAbsolute then [] else files.here
  let key := keyOf start path.segments
  (List.range key.length).foldlM (fun files n => addPlace files (key.take (n + 1))) files

/-- Reads the names in a directory into the tree; the contents of its files are not needed. -/
def addNames (files : FileTree) (directory : Path) : IO FileTree := do
  let files ← addPath files directory
  let start := if directory.isAbsolute then [] else files.here
  let key := keyOf start directory.segments
  let place := (← IO.currentDir) / placeName key
  if ← place.isDir then
    (← place.readDir).foldlM (fun files entry => do
      let name := Text.encode entry.fileName.toList
      let node ← if ← entry.path.isDir then pure FileNode.directory else pure (.file [])
      pure (if (files.node? (key ++ [name])).isSome then files
        else files.put (key ++ [name]) node)) files
  else pure files

def readFiles (request : CommandLine.Request) (temporaryDir : Path) : IO FileTree := do
  let here := keyOf [] (Path.segments (.ofText (← IO.currentDir).toString.toList))
  let files ← addPath { here } ⟨Path.current⟩
  let files ← match request.given.config with
    | some path => addPath files path
    | none => pure files
  let outputDir := match CommandLine.settings files request.given with
    | .ok settings => settings.outputDir
    | .error _ => none
  let files ← addNames files (outputDir.getD (Naming.directoryOf request.document))
  let files ← addNames files temporaryDir
  addPath files request.document

def writeChanges (before after : FileTree) : IO Unit := do
  for (key, node) in after.entries do
    if before.node? key ≠ some node then
      match node with
      | .file content => IO.FS.writeBinFile (placeName key) (ByteArray.mk content.toArray)
      | _ => pure ()
  for (key, _) in before.entries do
    if (after.node? key).isNone then IO.FS.removeFile (placeName key)

def momentOf (t : Std.Time.PlainDateTime) : Timestamp where
  year := t.year.toInt
  month := t.month.toNat
  day := t.day.toNat
  hour := t.hour.toNat
  minute := t.minute.toNat
  second := t.second.toNat

def readClock : IO Timestamp := do
  pure (momentOf (← Std.Time.PlainDateTime.now))

def readUniversalClock : IO Timestamp := do
  let now ← Std.Time.Timestamp.now
  pure (momentOf (.ofWallTime (.ofTimestamp now .zero)))

/-- A random token: groups of hexadecimal digits. -/
def readToken : IO Text := do
  let random ← IO.getRandomBytes 16
  let digits := random.toList.flatMap fun b =>
    [Nat.digitChar (b.toNat / 16), Nat.digitChar (b.toNat % 16)]
  pure (Text.joined "-" [digits.take 8, (digits.drop 8).take 4, '4' :: (digits.drop 13).take 3,
    'a' :: (digits.drop 17).take 3, digits.drop 20])

def noCommands (limit : Nat) : PrintService Unit :=
  SystemPrinter.toService (fun _ o => o)
    { limit, destination := .error .notFound, command := .error .notFound }

/-- Shows an output; the answer is the exit code. -/
def present (output : CommandLine.Output) : IO UInt32 := do
  (← IO.getStderr).putStr (String.ofList output.stderr)
  (← IO.getStdout).putStr (String.ofList output.stdout)
  pure output.code.toUInt32

def runWith (arguments : List String) : IO UInt32 := do
  let environment ← readEnvironment
  let arguments := arguments.map fun a => Text.encode a.toList
  let temporaryDir := environment.temporaryDir
  let occasion : Occasion := { time := ← readClock, temporaryDir, token := ← readToken }
  let files ← match CommandLine.Request.read environment arguments with
    | .ok request => readFiles request temporaryDir
    | .error _ => pure {}
  let (output, after) := CommandLine.program PdfFile.library LogFilter.choose environment arguments
    noCommands occasion (CommandLine.logTime (← readUniversalClock))
    { files, outside := () : Session Unit }
  writeChanges files after.files
  present output

end PageQuery.Terminal

def main (arguments : List String) : IO UInt32 := PageQuery.Terminal.runWith arguments
