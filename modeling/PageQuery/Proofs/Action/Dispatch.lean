import PageQuery.Proofs.Action.Export
import PageQuery.Proofs.Action.Printing

/-!
Sequences of calls of `dispatch`. Whatever is asked for, in whatever order and at whatever time: all
that stood in the tree stands in the end, and what is new are the files exported.
-/
namespace PageQuery

/-- What a call is asked to do. -/
structure Request where
  action : Action
  selected : Selection
  query : Text
  occasion : Occasion

/-- A call: what it was asked to do, the sessions before and after it, and what came of it. -/
structure Dispatched (σ : Type) extends Request where
  before : Session σ
  result : Except Failure Outcome
  after : Session σ

/-- The path that was exported to. -/
def exportedPath? : Except Failure Outcome → Option Path
  | .ok (.exported path _) => some path
  | _ => none

namespace Dispatched

variable {σ ω : Type}

/-- The paths that calls exported to, in order. -/
def exportedPaths (steps : List (Dispatched σ)) : List Path :=
  steps.filterMap fun step => exportedPath? step.result

/-- The names that a call needs can be had: before an export there are fewer entries than numbers, and
nothing is where a temporary file goes. -/
def NamesFree (step : Dispatched σ) (d : Document σ ω) : Prop :=
  match step.action with
  | .list => True
  | .save => step.before.files.entries.length < Naming.numberCount
  | .print => step.before.files.pathExists
      (Naming.temporaryPath step.occasion.temporaryDir step.occasion.token d.extension) = false

end Dispatched

namespace Document

variable {σ ω : Type}

/-- Calls `dispatch` for one request after another. -/
def dispatchAll (d : Document σ ω) (settings : Settings) (service : PrintService σ) :
    List Request → StateM (Session σ) (List (Dispatched σ))
  | [] => pure []
  | request :: more => do
    let before ← get
    let result ← d.dispatch settings service request.occasion request.action request.selected
      request.query
    let after ← get
    let rest ← d.dispatchAll settings service more
    pure ({ request with before, result, after } :: rest)

end Document

namespace FileTree

variable {t t' : FileTree} {p : Path}

/-- A tree in which all stays as it stands, and a file that is new is at a path where nothing was. -/
structure AddsOnly (t : FileTree) (new : Option Path) (t' : FileTree) : Prop where
  grows : t.Grows t'
  made : ∀ path ∈ new, t.pathExists path = false ∧ t'.isFile path = true
  files : ∀ key content, t'.node? key = some (.file content) →
    t.node? key = some (.file content) ∨ ∃ path ∈ new, t'.writingPlace path = .ok key

theorem Alike.addsOnly (h : t.Alike t') : t.AddsOnly none t' where
  grows := h.grows fun _ hfalse => hfalse.elim
  made := nofun
  files key content hnode := .inl (by rwa [← h.node key not_false])

/-- A file that was made where nothing was is the only thing new. -/
theorem ChangesFileAt.addsOnly (h : t.ChangesFileAt p t') (hfree : t.pathExists p = false)
    (hfile : t'.isFile p = true) : t.AddsOnly (some p) t' where
  grows := h.changes.grows fun _ hkey => node?_of_not_pathExists hfree hkey
  made := by
    rintro path ⟨⟩
    exact ⟨hfree, hfile⟩
  files key content hnode := by
    by_cases hkey : t.writingPlace p = .ok key
    · exact .inr ⟨p, rfl, (writingPlace_congr (h.place hfree) key).mpr hkey⟩
    · exact .inl (by rwa [← h.changes.node key hkey])

/-- Where a file can be but nothing was, no file is left after a removal. -/
theorem ChangesAt.addsOnly_afterRemoval (h : t.ChangesAt p t') (hfree : t.pathExists p = false)
    {key : TreeKey} (hkey : t.writingPlace p = .ok key) :
    t.AddsOnly none (t'.afterRemoval p) := by
  have hnames (other : TreeKey) (hother : t.Names p other) : other = key :=
    eq_of_names hother (names_of_writingPlace hkey)
  have hchanges : t.ChangesAt p (t'.afterRemoval p) :=
    h.trans hfree (changesAt_afterRemoval p t')
  have hnone := node?_of_not_pathExists hfree hkey
  refine ⟨ChangesOnly.grows hchanges fun other hother => ?_, nofun, fun other content hnode => .inl ?_⟩
  · rw [hnames other hother, hnone]
  · by_cases hother : t.Names p other
    -- a printer may have left a directory, but that is no file
    · rw [hnames other hother] at hnode
      have hplace := (writingPlace_congr (h.place hfree) key).mpr hkey
      rcases t'.node?_afterRemoval hplace with hremoved | ⟨hremoved, -⟩ <;>
      · rw [hremoved] at hnode
        cases hnode
    · rwa [← hchanges.node other hother]

end FileTree

namespace Document

variable {σ ω : Type} {d : Document σ ω} {settings : Settings} {service : PrintService σ}

theorem ExportRun.addsOnly (hd : d.SavesFile) {selected : Selection} {query : Text}
    {directory : Option Path} {time : Timestamp} {s s' : Session σ}
    {result : Except Failure Outcome}
    (h : ExportRun d selected query directory time s result s')
    (hleft : d.NameLeft s.files directory query time) :
    s.files.AddsOnly (exportedPath? result) s'.files := by
  have hfree : s.files.pathExists (d.exportPath s.files directory query time) = false :=
    Naming.not_pathExists_exportPath hleft
  cases h with
  | saved hpath hcopy =>
    rw [← hpath] at hfree
    have hchanges := changesFileAt_of_run_copySelected hd.toWritesBy hcopy hfree
    exact hchanges.addsOnly hfree (isFile_of_run_copySelected hd hcopy hfree)
  | failed hpath hcopy hfiles _ =>
    rw [← hpath] at hfree
    have hchanges := changesFileAt_of_run_copySelected hd.toWritesBy hcopy hfree
    rw [hfiles]
    exact (hchanges.alike_afterRemoval hfree).addsOnly

theorem SubmissionRun.addsOnly (hd : d.WritesBy FileTree.ChangesFileAt)
    (hservice : service.ChangesBy FileTree.ChangesAt) {path : Path} {selected : Selection}
    {s s₁ : Session σ} {result : Except Failure Outcome} {answer : Option (Except Failure Bool)}
    (h : SubmissionRun d path selected service s result answer s₁)
    (hfree : s.files.pathExists path = false) :
    s.files.AddsOnly none (s₁.files.afterRemoval path) := by
  cases h with
  | notCopied hcopy | notThere hcopy _ =>
    have hchanges := changesFileAt_of_run_copySelected hd hcopy hfree
    exact (hchanges.alike_afterRemoval hfree).addsOnly
  | @printed _ _ s₂ _ hcopy hfile hprint =>
    have hchanges := changesFileAt_of_run_copySelected hd hcopy hfree
    have hprinted := hservice.printFile path s₂.host
    rw [← Session.files_of_ask hprint] at hprinted
    obtain ⟨key, content, hkey, -⟩ := FileTree.isFile_iff.mp hfile
    have hplace := (FileTree.writingPlace_congr (hchanges.place hfree) key).mp hkey
    exact (hchanges.changesAt.trans hfree hprinted).addsOnly_afterRemoval hfree hplace

theorem PrintRun.addsOnly (hd : d.WritesBy FileTree.ChangesFileAt)
    (hservice : service.ChangesBy FileTree.ChangesAt) {path : Path} {selected : Selection}
    {s s' : Session σ} {result : Except Failure Outcome}
    (h : PrintRun d path selected service settings s result s')
    (hfree : s.files.pathExists path = false) :
    s.files.AddsOnly (exportedPath? result) s'.files := by
  cases h with
  | @cancelled beginning probe s₀ entries hprobe _ _ =>
    have hfiles := hservice.files_of_probe hprobe
    rw [Session.withEntries_files, hfiles]
    exact FileTree.Alike.addsOnly (.refl _ s.files)
  | @submitted beginning probe s₀ opening _ answer s₁ closing hprobe _ hsubmission _ =>
    have hfiles := hservice.files_of_probe hprobe
    have hnone : exportedPath? result = none := by cases hsubmission <;> rfl
    rw [hnone, ← hfiles]
    exact hsubmission.addsOnly hd hservice (by rwa [Session.withEntries_files, hfiles])

/-- A call adds nothing but the file that it exports. -/
theorem addsOnly_of_dispatch (hd : d.SavesFile) (hservice : service.ChangesBy FileTree.ChangesAt)
    {step : Dispatched σ} (hnames : step.NamesFree d)
    (hrun : (d.dispatch settings service step.occasion step.action step.selected step.query).run
      step.before = (step.result, step.after)) :
    step.before.files.AddsOnly (exportedPath? step.result) step.after.files := by
  obtain ⟨⟨action, selected, query, occasion⟩, before, result, after⟩ := step
  cases action with
  | list =>
    simp only [dispatch, Session.run_bind, Session.run_note, Session.run_report,
      Session.run_pure] at hrun
    obtain ⟨rfl, rfl⟩ := Prod.mk.inj hrun
    exact FileTree.Alike.addsOnly (.refl _ before.files)
  | save =>
    simp only [dispatch, Session.run_bind, Session.run_note] at hrun
    have hleft := d.nameLeft_of_entries hnames settings.outputDir query occasion.time
    exact (exportRun_of_run hrun).addsOnly hd hleft
  | print =>
    simp only [dispatch, Session.run_bind, Session.run_note] at hrun
    exact (printRun_of_run hrun).addsOnly hd.toWritesBy hservice hnames

theorem run_dispatchAll_cons {request : Request} {more : List Request} {s s' : Session σ}
    {steps : List (Dispatched σ)}
    (h : (d.dispatchAll settings service (request :: more)).run s = (steps, s')) :
    ∃ result s₁ rest, steps = { request with before := s, result, after := s₁ } :: rest ∧
      (d.dispatch settings service request.occasion request.action request.selected
        request.query).run s = (result, s₁) ∧
      (d.dispatchAll settings service more).run s₁ = (rest, s') := by
  simp only [dispatchAll, Session.run_bind, Session.run_get, Session.run_pure] at h
  obtain ⟨rfl, rfl⟩ := Prod.mk.inj h
  exact ⟨_, _, _, rfl, rfl, rfl⟩

end Document

namespace Dispatched

variable {σ : Type} {t t' : FileTree} {step : Dispatched σ} {rest : List (Dispatched σ)}

/-- What calls leave: all that stood, and the files exported, each at a path of its own where nothing
was, and with the content that it had after its export. -/
structure Preserve (t : FileTree) (steps : List (Dispatched σ)) (t' : FileTree) : Prop where
  grows : t.Grows t'
  exported : ∀ step ∈ steps, ∀ path ∈ exportedPath? step.result,
    t.pathExists path = false ∧ step.before.files.pathExists path = false ∧
      ∃ content, step.after.files.find path = .ok (.file content) ∧
        t'.find path = .ok (.file content)
  distinct : (exportedPaths steps).Nodup
  files : ∀ key content, t'.node? key = some (.file content) →
    t.node? key = some (.file content) ∨
      ∃ path ∈ exportedPaths steps, t'.writingPlace path = .ok key

theorem preserve_nil (t : FileTree) : Preserve (σ := σ) t [] t where
  grows := .refl t
  exported := nofun
  distinct := List.nodup_nil
  files _ _ hnode := .inl hnode

theorem mem_exportedPaths {steps : List (Dispatched σ)} {path : Path} :
    path ∈ exportedPaths steps ↔ ∃ step ∈ steps, exportedPath? step.result = some path :=
  List.mem_filterMap

theorem preserve_cons
    (hstep : step.before.files.AddsOnly (exportedPath? step.result) step.after.files)
    (h : Preserve step.after.files rest t') : Preserve step.before.files (step :: rest) t' where
  grows := hstep.grows.trans h.grows
  exported := by
    simp only [List.mem_cons]
    rintro step' (rfl | hmem) path hpath
    · obtain ⟨hfree, hfile⟩ := hstep.made path hpath
      obtain ⟨key, content, hkey, hnode⟩ := FileTree.isFile_iff.mp hfile
      have hfind := FileTree.find_eq_file_iff.mpr ⟨key, hkey, hnode⟩
      exact ⟨hfree, hfree, content, hfind, h.grows.find hfind⟩
    · obtain ⟨hfree, hrest⟩ := h.exported step' hmem path hpath
      exact ⟨hstep.grows.not_pathExists hfree, hrest⟩
  distinct := by
    rw [exportedPaths, List.filterMap_cons]
    cases hpath : exportedPath? step.result with
    | none => exact h.distinct
    | some path =>
      refine List.nodup_cons.mpr ⟨fun hmem => ?_, h.distinct⟩
      obtain ⟨step', hmem, hpath'⟩ := mem_exportedPaths.mp hmem
      -- the file is there when the later export looks for a free path
      obtain ⟨-, hfile⟩ := hstep.made path hpath
      obtain ⟨hfree, -⟩ := h.exported step' hmem path hpath'
      rw [FileTree.not_isFile_of_not_pathExists hfree] at hfile
      cases hfile
  files key content hnode := by
    rcases h.files key content hnode with hthere | ⟨path, hpath, hkey⟩
    · rcases hstep.files key content hthere with hbefore | ⟨path, hpath, hkey⟩
      · exact .inl hbefore
      · refine .inr ⟨path, mem_exportedPaths.mpr ⟨step, List.mem_cons_self, hpath⟩, ?_⟩
        exact h.grows.keepsDirectories.writingPlace hkey
    · obtain ⟨step', hmem, hpath'⟩ := mem_exportedPaths.mp hpath
      exact .inr ⟨path, mem_exportedPaths.mpr ⟨step', List.mem_cons_of_mem step hmem, hpath'⟩, hkey⟩

end Dispatched

namespace Document

variable {σ ω : Type} {d : Document σ ω} {settings : Settings} {service : PrintService σ}

theorem preserve_of_run_dispatchAll (hd : d.SavesFile)
    (hservice : service.ChangesBy FileTree.ChangesAt) {requests : List Request} {s s' : Session σ}
    {steps : List (Dispatched σ)}
    (hrun : (d.dispatchAll settings service requests).run s = (steps, s'))
    (hnames : ∀ step ∈ steps, step.NamesFree d) :
    Dispatched.Preserve s.files steps s'.files := by
  induction requests generalizing s steps with
  | nil =>
    cases hrun
    exact Dispatched.preserve_nil _
  | cons request more ih =>
    obtain ⟨result, s₁, rest, rfl, hfirst, hrest⟩ := run_dispatchAll_cons hrun
    obtain ⟨hname, hnames⟩ := List.forall_mem_cons.mp hnames
    exact Dispatched.preserve_cons (addsOnly_of_dispatch hd hservice hname hfirst) (ih hrest hnames)

/-- No call overwrites or deletes anything. All that could be found is found in the end; an export
goes to a path where nothing was, to another path each time, and stays as it was written; and no
other file is left. -/
theorem dispatchAll_preserves {σ : Type} :
    (∀ d : StoredDocument, (d.toDocument (σ := σ)).SavesFile) ∧
    (∀ (lib : PdfLibrary) (d : PdfDocument lib), (d.toDocument (σ := σ)).SavesFile) ∧
    ∀ {ω : Type} (d : Document σ ω) (settings : Settings) (service : PrintService σ)
      (requests : List Request) (s s' : Session σ) (steps : List (Dispatched σ)),
      d.SavesFile → service.ChangesBy FileTree.ChangesAt →
      (d.dispatchAll settings service requests).run s = (steps, s') →
      (∀ step ∈ steps, step.NamesFree d) →
      (∀ path node, s.files.find path = .ok node → s'.files.find path = .ok node) ∧
      (∀ step ∈ steps, ∀ path copied, step.result = .ok (.exported path copied) →
        step.before.files.pathExists path = false ∧
          ∃ content, step.after.files.find path = .ok (.file content) ∧
            s'.files.find path = .ok (.file content)) ∧
      (Dispatched.exportedPaths steps).Nodup ∧
      ∀ key content, s'.files.node? key = some (.file content) →
        s.files.node? key = some (.file content) ∨
          ∃ path ∈ Dispatched.exportedPaths steps, s'.files.writingPlace path = .ok key := by
  refine ⟨fun d => d.savesFile_toDocument, fun lib d => d.savesFile_toDocument, ?_⟩
  intro ω d settings service requests s s' steps hd hservice hrun hnames
  have hpreserve := preserve_of_run_dispatchAll hd hservice hrun hnames
  refine ⟨fun path node => hpreserve.grows.find, ?_, hpreserve.distinct, hpreserve.files⟩
  intro step hmem path copied hresult
  have hpath : path ∈ exportedPath? step.result := by
    rw [hresult]
    exact rfl
  exact (hpreserve.exported step hmem path hpath).2

/-- Two queries that give the same name, at the same time, and a printer that leaves a directory: the
second export gets a number. -/
theorem dispatchAll_preserves_sameName :
    let d : StoredDocument := .ofTexts (.ofText "/notes") ["a"]
    let settings : Settings := { forcePrint := true }
    let service : PrintService Unit := blockingPrinter.toService fun _ _ => ()
    let occasion : Occasion :=
      { time := { year := 2024, month := 5, day := 6, hour := 12, minute := 0, second := 0 }
        temporaryDir := .ofText "/", token := "x" }
    let selected : Selection := { pages := [.first] }
    let requests : List Request := [⟨.save, selected, "a|b", occasion⟩,
      ⟨.print, selected, "a|b", occasion⟩, ⟨.save, selected, "a&b", occasion⟩]
    let s : Session Unit :=
      { files := { entries := [([Text.encode "notes"], .file [1])] }, outside := () }
    let result := (d.toDocument.dispatchAll settings service requests).run s
    let plain := Path.ofText "/notes_a_b_20240506_120000.pdf"
    let numbered := Path.ofText "/notes_a_b_20240506_120000_1.pdf"
    Dispatched.exportedPaths result.1 = [plain, numbered] ∧
      result.2.files.find (.ofText "/notes") = .ok (.file [1]) ∧
      ∀ key content, result.2.files.node? key = some (.file content) →
        s.files.node? key = some (.file content) ∨
          ∃ path ∈ [plain, numbered], result.2.files.writingPlace path = .ok key := by
  intro d settings service occasion selected requests s result plain numbered
  have hpaths : Dispatched.exportedPaths result.1 = [plain, numbered] := by decide +kernel
  have hsource : s.files.find (.ofText "/notes") = .ok (.file [1]) := by decide +kernel
  have hservice : service.ChangesBy FileTree.ChangesAt := blockingPrinter.changesBy_toService _
  have hfew : ∀ step ∈ result.1, step.before.files.entries.length < Naming.numberCount := by
    decide +kernel
  have hfree : ∀ step ∈ result.1, step.action = .print → step.before.files.pathExists
      (Naming.temporaryPath step.occasion.temporaryDir step.occasion.token "pdf") = false := by
    decide +kernel
  have hextension : (d.toDocument (σ := Unit)).extension = "pdf" := by decide +kernel
  have hnames : ∀ step ∈ result.1, step.NamesFree (d.toDocument (σ := Unit)) := by
    intro step hmem
    rw [Dispatched.NamesFree, hextension]
    cases haction : step.action with
    | list => trivial
    | save => exact hfew step hmem
    | print => exact hfree step hmem haction
  generalize hrun : result = outcome at hpaths hnames ⊢
  obtain ⟨steps, s'⟩ := outcome
  obtain ⟨hkept, -, -, hfiles⟩ := dispatchAll_preserves.2.2 (d.toDocument (σ := Unit)) settings service
    requests s s' steps d.savesFile_toDocument hservice hrun hnames
  rw [hpaths] at hfiles
  exact ⟨hpaths, hkept _ _ hsource, hfiles⟩

end Document
end PageQuery
