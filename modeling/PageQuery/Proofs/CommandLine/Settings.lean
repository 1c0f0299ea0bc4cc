import PageQuery.CommandLine.Program
import PageQuery.Proofs.CommandLine.Arguments
import PageQuery.Proofs.Settings.Given
import PageQuery.Proofs.Text.Decoding

/-!
The settings of a request. Each setting comes from the first layer that gives it: the arguments, the
environment, the settings file, and the defaults. Only a variable that says not to print without a
printer does not count against a file that says to.
-/
namespace PageQuery.CommandLine

open Text (Bytes)

/-- The value from the first layer that gives one: an argument, a variable, the file, a default. -/
def firstGiven {α : Type} (argument environment file : Option α) (default : α) : α :=
  (argument.or (environment.or file)).getD default

theorem firstGiven_eq {α : Type} (argument environment file : Option α) (default : α) :
    firstGiven argument environment file default =
      (argument.or environment).getD (file.getD default) := by
  cases argument <;> cases environment <;> rfl

/-- A truth value that holds if any layer gives it is not the first one given if the environment
denies it. -/
theorem any_eq_firstGiven_iff {argument environment file : Option Bool}
    (hargument : ∀ b ∈ argument, b = true) :
    (file.getD false || (argument.or environment).getD false) =
        firstGiven argument environment file false ↔
      ¬ (argument = none ∧ environment = some false ∧ file = some true) := by
  rw [firstGiven_eq]
  cases argument with
  | some b =>
    obtain rfl := hargument b rfl
    simp
  | none =>
    cases environment with
    | none => simp
    | some denied => cases denied <;> cases file <;> simp

/-- What the settings file gives, if one is named. -/
def FileGives (files : FileTree) (config : Option Path) (file : Settings.Given) : Prop :=
  match config with
  | none => file = {}
  | some path => ∃ t, files.read path = .ok (Text.encode t) ∧ Settings.Given.parse t = .ok file

variable {files : FileTree} {file : Settings.Given}

theorem load_of_fileGives {path : Path} (h : FileGives files (some path) file) :
    Settings.load files path = .ok file.toSettings := by
  obtain ⟨t, hread, hparse⟩ := h
  rw [Settings.load, hread]
  simp only [Text.decode?_encode, Settings.parse_eq_map, hparse, Except.map_ok]

/-- Every file that can be loaded gives settings. -/
theorem exists_fileGives {config : Option Path}
    (hload : ∀ path ∈ config, ∃ base, Settings.load files path = .ok base) :
    ∃ file, FileGives files config file := by
  cases config with
  | none => exact ⟨{}, rfl⟩
  | some path =>
    obtain ⟨base, h⟩ := hload path rfl
    unfold Settings.load at h
    split at h
    · cases h
    · next bytes hread =>
      split at h
      · cases h
      · next t hdecode =>
        rw [Settings.parse_eq_map] at h
        cases hparse : Settings.Given.parse t with
        | error problem =>
          rw [hparse] at h
          cases h
        | ok file =>
          rw [Text.decode?_eq_some_iff_encode.mp hdecode] at hread
          exact ⟨file, t, hread, hparse⟩

theorem FileGives.unique {config : Option Path} {file' : Settings.Given}
    (h : FileGives files config file) (h' : FileGives files config file') : file = file' := by
  cases config with
  | none => exact Eq.trans h (Eq.symm h')
  | some path =>
    obtain ⟨t, hread, hparse⟩ := h
    obtain ⟨t', hread', hparse'⟩ := h'
    rw [hread, Except.ok.injEq] at hread'
    rw [Text.encode_injective hread', hparse'] at hparse
    cases hparse
    rfl

theorem settings_of_fileGives {given : Given} (h : FileGives files given.config file) :
    settings files given = .ok (settle file.toSettings given) := by
  unfold settings
  cases hconfig : given.config with
  | none =>
    rw [hconfig] at h
    obtain rfl : file = {} := h
    rfl
  | some path =>
    rw [hconfig] at h
    simp only [load_of_fileGives h, Except.map_ok]

/-- Values that variables are added to. Each variable stands in for the value of its name where that is
not given; only variables can say not to print without a printer. -/
structure StandsIn (named : Given) (v : Variables) (given : Given) : Prop where
  switch : ∀ b ∈ named.force, b = true
  force : given.force = named.force.or v.force
  grace : given.grace = named.grace.or v.grace
  wait : given.wait = named.wait.or v.wait
  outputDir : given.outputDir = named.outputDir.or v.outputDir
  config : given.config = named.config

variable {environment : Environment} {arguments : List Bytes} {r : Reading} {v : Variables}

/-- A request that names a document, a query and an action is read, and variables stand in. -/
theorem exists_request_of_reading {document : Path} {query : Text} {action : Action}
    (hread : Reading.takeAll {} false (modernize arguments) = .ok r)
    (hdocument : r.given.document = some document) (hquery : r.given.query = some query)
    (haction : r.given.action = some action) (hvariables : environment.Gives r.given v) :
    ∃ given, Request.read environment arguments = .ok ⟨document, query, action, given⟩ ∧
      StandsIn r.given v given := by
  let given : Given := { r.given with
    force := r.given.force.or v.force
    grace := r.given.grace.or v.grace
    wait := r.given.wait.or v.wait
    outputDir := r.given.outputDir.or v.outputDir }
  have hswitch := (Reading.forceIsSwitch_start.takeAll hread).given
  refine ⟨given, ?_, hswitch, rfl, rfl, rfl, rfl, rfl⟩
  rw [Request.read, hread, Except.ok_bind, addVariables_of_gives hvariables, Except.ok_bind]
  rw [if_neg]
  · simp only [hdocument, hquery, haction, given]
    rfl
  · intro hempty
    have hnone := congrArg Given.document (of_decide_eq_true hempty)
    rw [hdocument] at hnone
    cases hnone

/-- Each setting comes from the first layer that gives it, with one exception: a variable cannot
take back what the file says about printing without a printer. The layers are those of any values to
which variables are added; the reader of arguments and of the environment gives such values. -/
theorem settings_come_from_first_layer (files : FileTree) (named : Given) (v : Variables)
    (hload : ∀ path ∈ named.config, ∃ base, Settings.load files path = .ok base) :
    (∀ given, StandsIn named v given →
      ∃ file s, FileGives files named.config file ∧ settings files given = .ok s ∧
        s.printGrace = firstGiven named.grace v.grace file.printGrace 1000 ∧
        s.printWait = firstGiven named.wait v.wait file.printWait 5000 ∧
        s.outputDir = firstGiven (named.outputDir.map some) (v.outputDir.map some)
          (file.outputDir.map (·.map Path.ofText)) none ∧
        (s.forcePrint = firstGiven named.force v.force file.forcePrint false ↔
          ¬ (named.force = none ∧ v.force = some false ∧ file.forcePrint = some true))) ∧
    ∀ (environment : Environment) (arguments : List Bytes) (r : Reading)
      (document : Path) (query : Text) (action : Action),
      Reading.takeAll {} false (modernize arguments) = .ok r → r.given = named →
      named.document = some document → named.query = some query →
      named.action = some action → environment.Gives named v →
      ∃ given, Request.read environment arguments = .ok ⟨document, query, action, given⟩ ∧
        StandsIn named v given := by
  constructor
  · intro given hgiven
    obtain ⟨file, hfile⟩ := exists_fileGives hload
    have hnamed : FileGives files given.config file := by rwa [hgiven.config]
    have hsettings := settings_of_fileGives hnamed
    refine ⟨file, _, hfile, hsettings, ?_, ?_, ?_, ?_⟩
    · rw [firstGiven_eq, ← hgiven.grace]
      rfl
    · rw [firstGiven_eq, ← hgiven.wait]
      rfl
    · rw [firstGiven_eq, ← Option.map_or, ← hgiven.outputDir]
      change given.outputDir.or file.toSettings.outputDir = _
      cases given.outputDir with
      | none => rfl
      | some path => rfl
    · rw [← any_eq_firstGiven_iff hgiven.switch, ← hgiven.force]
      rfl
  · rintro environment arguments r document query action hread rfl
    exact exists_request_of_reading hread

/-- A variable takes the place of the file, and a name takes the place of both. -/
theorem settings_come_from_first_layer_allLayers :
    let arguments : List Bytes :=
      (["--config=c.json", "a.pdf", "--print-grace-ms", "7", "tax", "print"] : List Text).map
        Text.encode
    let environment : Environment := [("PAGESIFT_FORCE_PRINT", Text.encode "true"),
      ("PAGESIFT_PRINT_GRACE_MS", Text.encode "8"), ("PAGESIFT_PRINT_WAIT_MS", Text.encode "9")]
    let content : Text := "\x7b\"printGraceMs\":1,\"printWaitMs\":2,\"outputDir\":\"out\"\x7d"
    let files : FileTree := { entries := [([Text.encode "c.json"], .file (Text.encode content))] }
    ∃ request s, Request.read environment arguments = .ok request ∧
      settings files request.given = .ok s ∧ s = ⟨true, 7, 9, some (.ofText "out")⟩ := by
  intro arguments environment content files
  let given : Given :=
    { document := some (.ofText "a.pdf"), query := some "tax", action := some .print
      grace := some 7, config := some (.ofText "c.json") }
  let file : Settings.Given :=
    { printGrace := some 1, printWait := some 2, outputDir := some (some "out") }
  obtain ⟨r, hread, hgiven⟩ : ∃ r, Reading.takeAll {} false (modernize arguments) = .ok r ∧
      r.given = given := Except.map_eq_ok_iff.mp (by decide +kernel)
  let v : Variables := { force := some true, grace := some 8, wait := some 9 }
  have hvariables : environment.Gives r.given v := by
    constructor <;> exact fun _ => by decide
  have hfile : FileGives files r.given.config file := by
    rw [hgiven]
    exact ⟨content, by decide +kernel, by decide +kernel⟩
  have hload : ∀ path ∈ r.given.config, ∃ base, Settings.load files path = .ok base := by
    intro path hpath
    rw [hpath] at hfile
    exact ⟨_, load_of_fileGives hfile⟩
  obtain ⟨hlayers, hrequests⟩ := settings_come_from_first_layer files r.given v hload
  obtain ⟨g, hrequest, hstands⟩ := hrequests environment arguments r (.ofText "a.pdf") "tax" .print
    hread rfl (by rw [hgiven]) (by rw [hgiven]) (by rw [hgiven]) hvariables
  obtain ⟨found, s, hfound, hsettings, hgrace, hwait, hdirectory, hforce⟩ := hlayers g hstands
  obtain rfl := hfile.unique hfound
  have hforced := hforce.mpr fun hdenied => nomatch hdenied.2.1
  refine ⟨_, s, hrequest, hsettings, ?_⟩
  rw [hgiven] at hgrace hwait hdirectory hforced
  obtain ⟨forcePrint, printGrace, printWait, outputDir⟩ := s
  obtain rfl : forcePrint = true := hforced
  obtain rfl : printGrace = 7 := hgrace
  obtain rfl : printWait = 9 := hwait
  obtain rfl : outputDir = some (.ofText "out") := hdirectory
  rfl

/-- The file says to print without a printer, the variable says not to, and the file wins. -/
theorem settings_of_denying_variable :
    let arguments : List Bytes :=
      (["a.pdf", "tax", "print", "--config", "c.json"] : List Text).map Text.encode
    let environment : Environment := [("PAGESIFT_FORCE_PRINT", Text.encode "false")]
    let content : Text := "\x7b\"forcePrintWithoutDefaultPrinter\":true\x7d"
    let files : FileTree := { entries := [([Text.encode "c.json"], .file (Text.encode content))] }
    (environment.value? "PAGESIFT_FORCE_PRINT").map (Given.truth .force) = some (.ok false) ∧
      ∃ request s, Request.read environment arguments = .ok request ∧
        settings files request.given = .ok s ∧ s.forcePrint = true := by
  intro arguments environment content files
  refine ⟨by decide, ?_⟩
  let given : Given :=
    { document := some (.ofText "a.pdf"), query := some "tax", action := some .print
      force := some false, config := some (.ofText "c.json") }
  have hrequest : Request.read environment arguments =
      .ok ⟨.ofText "a.pdf", "tax", .print, given⟩ := by decide +kernel
  have hsettings : settings files given = .ok { forcePrint := true } := by decide +kernel
  exact ⟨_, _, hrequest, hsettings, rfl⟩

end PageQuery.CommandLine
