import PageQuery.CommandLine.Arguments
import PageQuery.CommandLine.Help
import PageQuery.Run
import PageQuery.Text.Style

/-!
The program: it reads its arguments, settles the settings, runs, and shows the report and the log.
-/
namespace PageQuery

def LogLevel.style : LogLevel → Text.Style
  | error => .alarm
  | warn => .yellow
  | info => .green
  | debug => .blue
  | trace => .cyan

def LogLevel.label : LogLevel → Text
  | error => "ERROR"
  | warn => "WARN "
  | info => "INFO "
  | debug => "DEBUG"
  | trace => "TRACE"

/-- A record as it is shown, with the time, styled; further lines of its text are indented. -/
def LogRecord.render (time : Text) (r : LogRecord) : Text :=
  let frame := Text.Style.grey.paint
  frame "[" ++ time ++ ' ' :: r.level.style.paint r.level.label ++ ' ' :: r.topic.path ++ frame "]"
    ++ ' ' :: Text.joined "\n    " (pieces '\n' r.text) ++ ['\n']

namespace CommandLine

open Text (Bytes)

structure Output where
  code : Nat
  stdout : Text
  stderr : Text
deriving DecidableEq, Repr

/-- A moment, by universal time, as log lines show it. -/
def logTime (t : Timestamp) : Text :=
  let two := Text.ofNatPadded 2
  Timestamp.renderYear t.year ++ '-' :: two t.month ++ '-' :: two t.day ++ 'T' :: two t.hour
    ++ ':' :: two t.minute ++ ':' :: two t.second ++ ['Z']

structure View where
  /-- Whether information is left out. -/
  quiet : Bool
  showsRecord : LogRecord → Bool
  styles : Bool
  /-- The time of the log records. -/
  time : Text

def line (t : Text) : Text := t ++ ['\n']

namespace Output

def empty : Output := ⟨0, [], []⟩

/-- Appends an entry of the journal: information goes to one stream, unless it is not wanted, and
all else to the other one. -/
def append (view : View) (o : Output) : JournalEntry → Output
  | .line ⟨.info, message⟩ =>
    if view.quiet then o else { o with stdout := o.stdout ++ line message }
  | .line ⟨.warning, message⟩ => { o with stderr := o.stderr ++ line ("warning: " ++ message) }
  | .line ⟨.error, message⟩ => { o with stderr := o.stderr ++ line ("error: " ++ message) }
  | .record r =>
    if view.showsRecord r then
      { o with stderr := o.stderr ++ Text.onStream view.styles (r.render view.time) }
    else o

def ofJournal (view : View) (j : Journal) : Output := j.foldl (append view) empty

end Output

/-- The settings of a request: those of the file, overridden by what is given. -/
def settle (base : Settings) (given : Given) : Settings where
  forcePrint := base.forcePrint || given.force.getD false
  printGrace := given.grace.getD base.printGrace
  printWait := given.wait.getD base.printWait
  outputDir := given.outputDir.or base.outputDir

def settings (files : FileTree) (given : Given) : Except Failure Settings :=
  match given.config with
  | none => .ok (settle {} given)
  | some path => (Settings.load files path).map (settle · given)

def pathSymbol : Text.Symbol → Text
  | .char c => Text.quotedChar c
  | .stray bytes => bytes.flatMap fun b =>
    "\\x" ++ (Nat.toDigits 16 b.toNat).map Char.toUpper

def describeSettings (s : Settings) : Text :=
  let directory : Text := match s.outputDir with
    | none => "None"
    | some path => "Some(\"" ++ (Text.symbols path.bytes).flatMap pathSymbol ++ "\")"
  "settings: SiftConfig \x7b force_print_without_default_printer: "
    ++ Settings.boolText s.forcePrint ++ ", print_grace_ms: " ++ Text.ofNat s.printGrace
    ++ ", print_wait_ms: " ++ Text.ofNat s.printWait ++ ", output_dir: " ++ directory ++ " \x7d"

def describeScan (scan : ScanOutcome) : Text :=
  Text.ofNat scan.selected.size ++ " of " ++ Text.ofNat scan.total ++ " pages matched, "
    ++ Text.ofNat scan.failures.length ++ " unreadable"

/-- Does what is asked; the answer is the exit code. -/
def perform {σ : Type} (lib : PdfLibrary) (request : Request) (serviceFor : Nat → PrintService σ)
    (occasion : Occasion) : StateM (Session σ) Nat := do
  match settings (← get).files request.given with
  | .error failure =>
    Session.report .error failure.message
    pure 1
  | .ok settings =>
    Session.note .debug .program (describeSettings settings)
    let service := serviceFor settings.printWait
    match ← runAt lib request.document request.query request.action settings service occasion with
    | .error failure =>
      Session.report .error failure.message
      pure 1
    | .ok summary =>
      Session.note .info .program (describeScan summary.scan)
      pure 0

def Stop.output (environment : Environment) (stop : Stop) : Output :=
  let shown := Text.onStream environment.hasStyles
  match stop with
  | help => ⟨0, shown (CommandLine.help environment), []⟩
  | version => ⟨0, shown CommandLine.version, []⟩
  | nothingGiven => ⟨0, [], shown (CommandLine.help environment)⟩
  | usage problem => ⟨2, [], shown problem.render⟩

/-- The whole program, from its arguments to its output and the session it leaves. The choice of log
records is made of what the environment asks for. -/
def program {σ : Type} (lib : PdfLibrary) (chooseLog : Option Text → LogChoice)
    (environment : Environment) (arguments : List Bytes) (serviceFor : Nat → PrintService σ)
    (occasion : Occasion) (logTime : Text) (s : Session σ) : Output × Session σ :=
  let log := chooseLog ((environment.value? Environment.logName).bind Text.decode?)
  let warned := log.warnings.flatMap line
  match Request.read environment arguments with
  | .error stop =>
    let output := stop.output environment
    ({ output with stderr := warned ++ output.stderr }, s)
  | .ok request =>
    let (code, after) := (perform lib request serviceFor occasion).run s
    let shown := Output.ofJournal
      { quiet := request.given.quiet, showsRecord := log.shows
        styles := environment.hasLogStyles, time := logTime } after.journal
    ({ shown with code, stderr := warned ++ shown.stderr }, after)

end CommandLine
end PageQuery
