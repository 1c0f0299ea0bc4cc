import PageQuery.Pdf.File
import PageQuery.Proofs.Forgetful

/-!
The parts of a run. A run is a scan and, if pages were found, one action with just these pages; what it
says and asks is what the two say and ask by themselves, with one line between them.
-/
namespace PageQuery

/-- What is said when no page was found. -/
def nothingFoundLine : ReportLine := ⟨.info, "no matching pages found"⟩

/-- What is said when pages were found. -/
def foundLine (selected : Selection) : ReportLine :=
  ⟨.info, Text.ofNat selected.size ++ " pages matched"⟩

namespace Document

variable {σ ω : Type} {d : Document σ ω} {m : Query.Matcher} {query : Text} {action : Action}
  {settings : Settings} {service : PrintService σ} {occasion : Occasion}
  {s scanned acted : Session σ} {found : ScanOutcome} {outcome : Except Failure Outcome}

/-- A scan only writes to the journal. -/
theorem exists_entries_of_run_scan (h : (d.scan m).run s = (found, scanned)) :
    ∃ entries, scanned = s.withEntries entries := by
  rw [run_scan, run_scanPages, Session.withEntries_withEntries] at h
  exact ⟨_, (Prod.mk.inj h).2.symm⟩

/-- Nothing is found iff there is no page that can be read and that the query holds of. -/
theorem selected_eq_nil_iff (h : (d.scan m).run s = (found, scanned)) :
    found.selected.pages = [] ↔
      ∀ page t, page.value ≤ d.pageCount → d.extractText page = .ok t → m.accepts t = false := by
  have hfinds := d.findsAll_scan m s
  rw [h] at hfinds
  rw [List.eq_nil_iff_forall_not_mem]
  constructor
  · intro hnone page t hpage htext
    rw [← Bool.not_eq_true]
    exact fun haccepts => hnone page ((hfinds.mem_selected page).mpr ⟨hpage, t, htext, haccepts⟩)
  · intro hall page hmem
    obtain ⟨hpage, t, htext, haccepts⟩ := (hfinds.mem_selected page).mp hmem
    rw [hall page t hpage htext] at haccepts
    cases haccepts

def queryEntry (query : Text) : JournalEntry :=
  .record ⟨.debug, .run, "query " ++ Text.quoted query ++ " compiled to `"
    ++ (Query.Matcher.compile query).expression.render ++ "`"⟩

/-- A run is a scan, and an action if there are pages for it. -/
theorem run_run (d : Document σ ω) (query : Text) (action : Action) (settings : Settings)
    (service : PrintService σ) (occasion : Occasion) (s : Session σ) :
    (d.run query action settings service occasion).run s =
      let scan := (d.scan (.compile query)).run (s.withEntries [queryEntry query])
      let selected := scan.1.selected
      if selected.pages = [] then
        (.ok ⟨scan.1, none⟩, scan.2.withEntries [.line nothingFoundLine])
      else
        let result := (d.dispatch settings service occasion action selected query).run
          (scan.2.withEntries [.line (foundLine selected)])
        (result.1.map fun o => ⟨scan.1, some o⟩, result.2) := by
  rw [run, Session.run_bind, Session.run_note]
  change (d.scan (.compile query) >>= _).run (s.withEntries [queryEntry query]) = _
  rw [Session.run_bind]
  rcases (d.scan (.compile query)).run (s.withEntries [queryEntry query]) with ⟨found, scanned⟩
  by_cases hnone : found.selected.pages = []
  · have hempty : found.selected.isEmpty = true := List.isEmpty_iff.mpr hnone
    simp only [hempty, ↓reduceIte]
    rw [if_pos hnone]
    rfl
  · have hempty : ¬ found.selected.isEmpty = true := fun h => hnone (List.isEmpty_iff.mp h)
    simp only [hempty]
    rw [if_neg hnone]
    rfl

theorem run_run_of_nothing (hscan : (d.scan (.compile query)).run s.fresh = (found, scanned))
    (hnone : found.selected.pages = []) :
    (d.run query action settings service occasion).run s =
      (.ok ⟨found, none⟩,
        (scanned.after (s.withEntries [queryEntry query])).withEntries
          [.line nothingFoundLine]) := by
  have hscan' := (d.forgetful_scan (.compile query)).run_eq
    (s := s.withEntries [queryEntry query]) rfl hscan
  rw [run_run, hscan']
  exact if_pos hnone

theorem run_run_of_found (hscan : (d.scan (.compile query)).run s.fresh = (found, scanned))
    (hdispatch : (d.dispatch settings service occasion action found.selected query).run s.fresh =
      (outcome, acted))
    (hsome : found.selected.pages ≠ []) :
    (d.run query action settings service occasion).run s =
      (outcome.map fun o => ⟨found, some o⟩,
        acted.after ((scanned.after (s.withEntries [queryEntry query])).withEntries
          [.line (foundLine found.selected)])) := by
  have hscan' := (d.forgetful_scan (.compile query)).run_eq
    (s := s.withEntries [queryEntry query]) rfl hscan
  -- the action starts from a session that differs from the first one in its journal only
  have hsame : ((scanned.after (s.withEntries [queryEntry query])).withEntries
      [.line (foundLine found.selected)]).fresh = s.fresh := by
    obtain ⟨entries, rfl⟩ := exists_entries_of_run_scan hscan
    exact Session.fresh_congr rfl rfl
  have hdispatch' :=
    (d.forgetful_dispatch settings service occasion action found.selected query).run_eq
      hsame hdispatch
  rw [run_run, hscan']
  dsimp only
  rw [if_neg hsome, hdispatch']

/-- What a run that succeeds says about the scan, and when it did nothing else. -/
theorem summary_of_run {summary : Summary} {s' : Session σ}
    (hscan : (d.scan (.compile query)).run s.fresh = (found, scanned))
    (hrun : (d.run query action settings service occasion).run s = (.ok summary, s')) :
    summary.scan = found ∧ (summary.outcome = none ↔ found.selected.pages = []) := by
  by_cases hnone : found.selected.pages = []
  · rw [run_run_of_nothing hscan hnone] at hrun
    obtain ⟨hsummary, -⟩ := Prod.mk.inj hrun
    cases hsummary
    simp [hnone]
  · rw [run_run_of_found hscan rfl hnone] at hrun
    obtain ⟨o, -, rfl⟩ := Except.map_eq_ok_iff.mp (Prod.mk.inj hrun).1
    simp [hnone]

/-- Naming the pages changes nothing. -/
theorem run_dispatch_list (d : Document σ ω) (settings : Settings) (service : PrintService σ)
    (occasion : Occasion) (selected : Selection) (query : Text) (s : Session σ) :
    ∃ entries, (d.dispatch settings service occasion .list selected query).run s =
      (.ok (.listed selected), s.withEntries entries) := by
  rw [dispatch, Session.run_bind, Session.run_note]
  dsimp only
  rw [Session.run_bind, Session.run_report, Session.withEntries_withEntries]
  exact ⟨_, rfl⟩

end Document

def PdfDocument.openedEntry {lib : PdfLibrary} (pdf : PdfDocument lib) : JournalEntry :=
  .record ⟨.debug, .pdf, pdf.openedMessage⟩

section RunAt

variable {σ : Type} {lib : PdfLibrary} {path : Path} {query : Text} {action : Action}
  {settings : Settings} {service : PrintService σ} {occasion : Occasion} {s t : Session σ}

/-- A file that cannot be opened leaves the session as it is. -/
theorem run_runAt_of_error {failure : Failure}
    (h : PdfDocument.load lib s.files path = .error failure) :
    (runAt lib path query action settings service occasion).run s = (.error failure, s) := by
  have hopen : PdfDocument.openAt lib path s.host = (.error failure, s.host) := by
    rw [PdfDocument.openAt, Session.host_files, h]
  rw [runAt, Session.run_bind, Session.run_act, hopen, Session.resume_host]
  rfl

theorem run_runAt_of_ok {pdf : PdfDocument lib} (h : PdfDocument.load lib s.files path = .ok pdf) :
    (runAt lib path query action settings service occasion).run s =
      (pdf.toDocument.run query action settings service occasion).run
        (s.withEntries [pdf.openedEntry]) := by
  have hopen : PdfDocument.openAt lib path s.host =
      (.ok pdf, s.host.note .debug .pdf pdf.openedMessage) := by
    rw [PdfDocument.openAt, Session.host_files, h]
  rw [runAt, Session.run_bind, Session.run_act, hopen]
  rfl

/-- A run at a path does what a run on the opened file does; only the log also says that it was
opened. -/
theorem exists_run_runAt_of_ok {pdf : PdfDocument lib} {result : Except Failure Summary}
    (h : PdfDocument.load lib s.files path = .ok pdf)
    (hrun : (pdf.toDocument.run query action settings service occasion).run s = (result, t)) :
    ∃ t', (runAt lib path query action settings service occasion).run s = (result, t') ∧
      t'.files = t.files ∧ t'.outside = t.outside ∧ t'.calls = t.calls ∧
      t'.journal.report = t.journal.report := by
  have hforgetful := pdf.toDocument.forgetful_run query action settings service occasion
  rcases hfresh : (pdf.toDocument.run query action settings service occasion).run s.fresh with
    ⟨result', u⟩
  rw [hforgetful.run_eq rfl hfresh] at hrun
  obtain ⟨rfl, rfl⟩ := Prod.mk.inj hrun
  have hopened := hforgetful.run_eq (s := s.withEntries [pdf.openedEntry]) rfl hfresh
  refine ⟨_, (run_runAt_of_ok h).trans hopened, rfl, rfl, rfl, ?_⟩
  simp [PdfDocument.openedEntry]

end RunAt

namespace Document

variable {σ ω : Type}

/-- A run scans the document for the compiled query. If nothing is found, it says so, and nothing is
changed and nothing is asked. Otherwise it does the action once, with just the pages found and the
query as typed, and succeeds iff the action does. A run at a path does so for the opened file, and
nothing if the file is not opened, whatever the library that opens it. -/
theorem run_scans_then_dispatches (d : Document σ ω) (query : Text) (action : Action)
    (settings : Settings) (service : PrintService σ) (occasion : Occasion) (s : Session σ)
    {found : ScanOutcome} {outcome : Except Failure Outcome} {result : Except Failure Summary}
    {scanned acted s' : Session σ}
    (hscan : (d.scan (.compile query)).run s.fresh = (found, scanned))
    (hdispatch : (d.dispatch settings service occasion action found.selected query).run s.fresh =
      (outcome, acted))
    (hrun : (d.run query action settings service occasion).run s = (result, s')) :
    (∀ summary, result = .ok summary → summary.scan = found) ∧
      ((∃ summary, result = .ok summary ∧ summary.outcome = none) ↔
        found.selected.pages = []) ∧
      (found.selected.pages = [] ↔ ∀ page t, page.value ≤ d.pageCount →
        d.extractText page = .ok t → (Query.Matcher.compile query).accepts t = false) ∧
      (found.selected.pages = [] →
        result = .ok ⟨found, none⟩ ∧
        s'.files = s.files ∧ s'.outside = s.outside ∧ s'.calls = s.calls ∧
        s'.journal.report =
          s.journal.report ++ scanned.journal.report ++ [nothingFoundLine]) ∧
      (found.selected.pages ≠ [] →
        result = outcome.map (fun o => ⟨found, some o⟩) ∧
        (∀ failure, result = .error failure ↔ outcome = .error failure) ∧
        s'.files = acted.files ∧ s'.outside = acted.outside ∧
        s'.calls = s.calls ++ acted.calls ∧
        s'.journal.report = s.journal.report ++ scanned.journal.report ++
          foundLine found.selected :: acted.journal.report ∧
        (action = .list →
          result = .ok ⟨found, some (.listed found.selected)⟩ ∧ s'.files = s.files)) ∧
      ∀ (lib : PdfLibrary) (path : Path),
        (s.files.isFile path = false →
          (runAt lib path query action settings service occasion).run s =
            (.error (.sourceNotFound path), s)) ∧
        (∀ failure, PdfDocument.load lib s.files path = .error failure →
          (runAt lib path query action settings service occasion).run s = (.error failure, s)) ∧
        ∀ (pdf : PdfDocument lib) value t, pdf.OpensAt s.files path →
          (pdf.toDocument.run query action settings service occasion).run s = (value, t) →
          ∃ t', (runAt lib path query action settings service occasion).run s = (value, t') ∧
            t'.files = t.files ∧ t'.outside = t.outside ∧ t'.calls = t.calls ∧
            t'.journal.report = t.journal.report := by
  obtain ⟨entries, hentries⟩ := exists_entries_of_run_scan hscan
  refine ⟨?summary, ?none, selected_eq_nil_iff hscan, ?nothing, ?found, fun lib path =>
    ⟨fun hmissing => run_runAt_of_error (PdfDocument.load_of_not_isFile hmissing),
      fun failure => run_runAt_of_error, fun pdf value t hopens =>
        exists_run_runAt_of_ok (PdfDocument.load_eq_ok_iff.mpr hopens)⟩⟩
  case summary =>
    rintro summary rfl
    exact (summary_of_run hscan hrun).1
  case none =>
    constructor
    · rintro ⟨summary, rfl, hnone⟩
      exact (summary_of_run hscan hrun).2.mp hnone
    · intro hnone
      rw [run_run_of_nothing hscan hnone] at hrun
      exact ⟨_, (Prod.mk.inj hrun).1.symm, rfl⟩
  case nothing =>
    intro hnone
    rw [run_run_of_nothing hscan hnone] at hrun
    obtain ⟨rfl, rfl⟩ := Prod.mk.inj hrun
    subst hentries
    refine ⟨rfl, rfl, rfl, ?_, ?_⟩
    · simp [Session.fresh]
    · simp [queryEntry]
  case found =>
    intro hsome
    rw [run_run_of_found hscan hdispatch hsome] at hrun
    obtain ⟨rfl, rfl⟩ := Prod.mk.inj hrun
    subst hentries
    refine ⟨rfl, fun failure => Except.map_eq_error_iff, rfl, rfl, ?_, ?_, ?_⟩
    · simp [Session.fresh]
    · simp [queryEntry]
    · rintro rfl
      obtain ⟨named, hlist⟩ :=
        d.run_dispatch_list settings service occasion found.selected query s.fresh
      rw [hlist] at hdispatch
      obtain ⟨rfl, rfl⟩ := Prod.mk.inj hdispatch
      exact ⟨rfl, rfl⟩

/-- One page cannot be read, the other two are named; and there is no file to open. -/
theorem run_scans_then_dispatches_withoutSecond :
    let d := withoutSecond (.print "offline")
    let occasion : Occasion :=
      { time := { year := 2024, month := 5, day := 6, hour := 12, minute := 0, second := 0 }
        temporaryDir := .ofText "/", token := "x" }
    let s : Session Unit := { files := {}, outside := () }
    let found := ((d.scan (.compile "TAX")).run s.fresh).1
    let ran := (d.run "TAX" .list {} .unsupported occasion).run s
    found.selected.numbers = [1, 3] ∧
      ran.1 = .ok ⟨found, some (.listed found.selected)⟩ ∧ ran.2.files = s.files ∧
      ran.2.journal.report = [
        ⟨.info, "searching 3 pages..."⟩,
        ⟨.warning, "error while processing page 2: Print error: offline"⟩,
        ⟨.info, "2 pages matched"⟩,
        ⟨.info, "matched pages: 1, 3"⟩] ∧
      (runAt PdfFile.library (.ofText "/missing.pdf") "TAX" .list {} .unsupported occasion).run s =
        (.error (.sourceNotFound (.ofText "/missing.pdf")), s) := by
  intro d occasion s found ran
  let scanned := ((d.scan (.compile "TAX")).run s.fresh).2
  let acted := ((d.dispatch {} .unsupported occasion .list found.selected "TAX").run s.fresh).2
  have hscan : (d.scan (.compile "TAX")).run s.fresh = (found, scanned) := rfl
  have hdispatch : (d.dispatch {} .unsupported occasion .list found.selected "TAX").run s.fresh =
      (.ok (.listed found.selected), acted) := rfl
  have hnumbers : found.selected.numbers = [1, 3] := by decide +kernel
  have hsome : found.selected.pages ≠ [] := by decide +kernel
  have hmissing : s.files.isFile (.ofText "/missing.pdf") = false := by decide +kernel
  obtain ⟨-, -, -, -, hfound, hat⟩ :=
    run_scans_then_dispatches d "TAX" .list {} .unsupported occasion s hscan hdispatch rfl
  obtain ⟨hresult, -, hfiles, -, -, hreport, -⟩ := hfound hsome
  refine ⟨hnumbers, hresult, hfiles, hreport.trans ?_, (hat _ _).1 hmissing⟩
  decide +kernel

end Document
end PageQuery
