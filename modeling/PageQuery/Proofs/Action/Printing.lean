import PageQuery.Action.Dispatch
import PageQuery.Proofs.Action.Export
import PageQuery.Proofs.Printing.Service

/-!
Printing: the ways through it up to the removal of the temporary file, that this file never
survives, and what is asked of the printer on each way.
-/
namespace PageQuery

namespace Call

def isProbe : Call → Bool
  | probe => true
  | _ => false

def isPrint : Call → Bool
  | printFile _ => true
  | _ => false

def isRemoval : Call → Bool
  | remove _ => true
  | _ => false

theorem filter_eq_nil_of_isWriting {asked : List Call} {kind : Call → Bool}
    (hkind : ∀ call, call.IsWriting → kind call = false) (h : ∀ call ∈ asked, call.IsWriting) :
    asked.filter kind = [] := by
  refine List.filter_eq_nil_iff.mpr fun call hcall => ?_
  rw [hkind call (h call hcall)]
  exact Bool.false_ne_true

theorem IsWriting.isProbe {call : Call} (h : call.IsWriting) : call.isProbe = false := by
  cases call <;> trivial

theorem IsWriting.isPrint {call : Call} (h : call.IsWriting) : call.isPrint = false := by
  cases call <;> trivial

theorem IsWriting.isRemoval {call : Call} (h : call.IsWriting) : call.isRemoval = false := by
  cases call <;> trivial

end Call

/-- What is said about the removal of a temporary file after printing: one warning if it fails. -/
def removalLines : Except SystemError (Bool × FileTree) → Report
  | .ok _ => []
  | .error e => [⟨.warning, "error while deleting temporary file: " ++ e.message⟩]

/-- What is said about a printer's answer. -/
def answerLine : Except Failure Bool → ReportLine
  | .ok true => ⟨.info, "print request submitted"⟩
  | .ok false => ⟨.warning, "the print request was not accepted"⟩
  | .error failure => ⟨.error, failure.message⟩

/-- The failure of printing when no document was made. -/
def notMade (path : Path) : Failure := .cannotWrite path "temporary document was not created"

namespace TemporaryFile

variable {σ : Type}

theorem run_cleanup (path : Path) (s : Session σ) :
    ∃ entries, (cleanup path).run s = ((), (s.afterRemoval path).withEntries entries) ∧
      Journal.report entries = removalLines (s.files.removeIfThere path) := by
  simp only [cleanup, Session.run_bind, Session.run_removeIfThere]
  rcases s.files.removeIfThere path with e | ⟨_ | _, files⟩
  · simp only [Except.map, Session.run_bind, Session.run_note, Session.run_report,
      Session.withEntries_withEntries]
    exact ⟨_, rfl, rfl⟩
  · exact ⟨[], by simp only [Except.map, Session.run_pure, Session.withEntries_nil], rfl⟩
  · exact ⟨_, rfl, rfl⟩

theorem run_discard (path : Path) (s : Session σ) :
    ∃ entries, (discard path).run s = ((), (s.afterRemoval path).withEntries entries) ∧
      Journal.report entries = [] := by
  simp only [discard, Session.run_bind, Session.run_removeIfThere]
  rcases s.files.removeIfThere path with e | removed
  · exact ⟨_, rfl, rfl⟩
  · exact ⟨[], by simp only [Except.map, Session.run_pure, Session.withEntries_nil], rfl⟩

end TemporaryFile

namespace Document

variable {σ ω : Type}

theorem run_reportSubmitted (service : PrintService σ) (answer : Except Failure Bool)
    (s : Session σ) :
    ∃ entries, (reportSubmitted service answer).run s =
        (decide (answer = .ok true), s.withEntries entries) ∧
      Journal.report entries = [answerLine answer] := by
  rcases answer with failure | _ | _
  · simp only [reportSubmitted, Session.run_bind, Session.run_note, Session.run_report,
      Session.withEntries_withEntries]
    exact ⟨_, rfl, rfl⟩
  · exact ⟨_, rfl, rfl⟩
  · exact ⟨_, rfl, rfl⟩

theorem run_confirmPrinter (settings : Settings) (probe : Probe) (s : Session σ) :
    ∃ entries, (confirmPrinter settings probe).run s =
      (probe.isAvailable || settings.forcePrint, s.withEntries entries) := by
  simp only [confirmPrinter]
  split_ifs with havailable hforce
  · simp only [havailable, Session.run_bind, Session.run_report, Session.run_pure, Bool.true_or]
    exact ⟨_, rfl⟩
  · simp only [havailable, hforce, Session.run_bind, Session.run_report, Session.run_pure,
      Session.withEntries_withEntries, Bool.or_true]
    exact ⟨_, rfl⟩
  · simp only [havailable, hforce, Session.run_bind, Session.run_report, Session.run_pure,
      Session.withEntries_withEntries, Bool.or_false]
    exact ⟨_, rfl⟩

variable (d : Document σ ω) (path : Path) (selected : Selection) (service : PrintService σ)

/-- Printing through a temporary file up to the removal of that file, as a relation between the start
and the end of a run. The result is settled by then; with it comes the printer's answer, if the file
was printed. -/
inductive SubmissionRun (s : Session σ) :
    Except Failure Outcome → Option (Except Failure Bool) → Session σ → Prop
  | notCopied {failure s₁} (hcopy : (d.copySelected path selected).run s = (.error failure, s₁)) :
      SubmissionRun s (.error failure) none s₁
  | notThere {copied s₁} (hcopy : (d.copySelected path selected).run s = (.ok copied, s₁))
      (hfile : s₁.files.isFile path = false) :
      SubmissionRun s (.error (notMade path)) none s₁
  | printed {copied answer s₁ s₂} (hcopy : (d.copySelected path selected).run s = (.ok copied, s₁))
      (hfile : s₁.files.isFile path = true)
      (hprint : (Session.ask (.printFile path) (service.printFile path)).run s₁ = (answer, s₂)) :
      SubmissionRun s (.ok (.printed (decide (answer = .ok true)) copied)) (some answer) s₂

/-- What is said from the removal on. -/
def closingLines (removal : Except SystemError (Bool × FileTree)) :
    Option (Except Failure Bool) → Report
  | none => []
  | some answer => removalLines removal ++ [answerLine answer]

variable {d path selected service}

theorem exists_submissionRun {s s' : Session σ} {result : Except Failure Outcome}
    (h : (d.printThrough path selected service).run s = (result, s')) :
    ∃ opening answer s₁ closing,
      SubmissionRun d path selected service (s.withEntries opening) result answer s₁ ∧
      s' = (s₁.afterRemoval path).withEntries closing ∧
      Journal.report closing = closingLines (s₁.files.removeIfThere path) answer := by
  simp only [printThrough, printFrom, Session.run_bind, Session.run_report] at h
  -- the file is dropped at the first two exits, and closed before the answer is told at the third
  rcases hcopy : (d.copySelected path selected).run (s.withEntries _) with ⟨copying, s₁⟩
  rw [hcopy] at h
  cases copying with
  | error failure =>
    obtain ⟨closing, hdiscard, hclosing⟩ := TemporaryFile.run_discard path s₁
    simp only [Session.run_pure, TemporaryFile.drop, Bool.false_eq_true, ↓reduceIte, hdiscard] at h
    obtain ⟨rfl, rfl⟩ := Prod.mk.inj h
    exact ⟨_, none, s₁, closing, .notCopied hcopy, rfl, hclosing⟩
  | ok copied =>
    simp only [Session.run_bind, Session.run_get] at h
    cases hfile : s₁.files.isFile path with
    | false =>
      obtain ⟨closing, hdiscard, hclosing⟩ := TemporaryFile.run_discard path s₁
      simp only [hfile, Session.run_pure, TemporaryFile.drop, Bool.false_eq_true, ↓reduceIte,
        hdiscard] at h
      obtain ⟨rfl, rfl⟩ := Prod.mk.inj h
      exact ⟨_, none, s₁, closing, .notThere hcopy hfile, rfl, hclosing⟩
    | true =>
      simp only [hfile, ↓reduceIte, Session.run_bind, TemporaryFile.close] at h
      rcases hprint : (Session.ask (.printFile path) (service.printFile path)).run s₁ with
        ⟨answer, s₂⟩
      obtain ⟨cleaning, hcleanup, hcleaning⟩ := TemporaryFile.run_cleanup path s₂
      obtain ⟨answering, hanswer, hanswering⟩ := run_reportSubmitted service answer
        ((s₂.afterRemoval path).withEntries cleaning)
      rw [hprint] at h
      simp only [hcleanup, hanswer, Session.run_pure, TemporaryFile.drop, ↓reduceIte,
        Session.withEntries_withEntries] at h
      obtain ⟨rfl, rfl⟩ := Prod.mk.inj h
      refine ⟨_, some answer, s₂, cleaning ++ answering, .printed hcopy hfile hprint, rfl, ?_⟩
      rw [Journal.report_append, hcleaning, hanswering, closingLines]

variable (d path selected service) in
/-- Printing: it is cancelled after the probe, or goes through the temporary file, which an attempt is
then made to remove. -/
inductive PrintRun (settings : Settings) (s : Session σ) : Except Failure Outcome → Session σ → Prop
  | cancelled {beginning probe s₀} (entries : Journal)
      (hprobe : (Session.ask .probe service.probe).run (s.withEntries beginning) = (probe, s₀))
      (havailable : probe.isAvailable = false) (hforce : settings.forcePrint = false) :
      PrintRun settings s (.ok .printCancelled) (s₀.withEntries entries)
  | submitted {beginning probe s₀ opening result answer s₁ closing}
      (hprobe : (Session.ask .probe service.probe).run (s.withEntries beginning) = (probe, s₀))
      (hgoesOn : (probe.isAvailable || settings.forcePrint) = true)
      (hsubmission : SubmissionRun d path selected service (s₀.withEntries opening) result answer
        s₁)
      (hclosing : Journal.report closing = closingLines (s₁.files.removeIfThere path) answer) :
      PrintRun settings s result ((s₁.afterRemoval path).withEntries closing)

theorem printRun_of_run {settings : Settings} {occasion : Occasion} {s s' : Session σ}
    {result : Except Failure Outcome}
    (h : (d.printSelected selected settings service occasion).run s = (result, s')) :
    PrintRun d (Naming.temporaryPath occasion.temporaryDir occasion.token d.extension) selected
      service settings s result s' := by
  simp only [printSelected, Session.run_bind, Session.run_report] at h
  rcases hprobe : (Session.ask .probe service.probe).run (s.withEntries _) with ⟨probe, s₀⟩
  obtain ⟨entries, hconfirm⟩ := run_confirmPrinter settings probe s₀
  rw [hprobe] at h
  simp only [hconfirm] at h
  cases hgoesOn : (probe.isAvailable || settings.forcePrint) with
  | false =>
    obtain ⟨havailable, hforce⟩ := Bool.or_eq_false_iff.mp hgoesOn
    simp only [hgoesOn, Bool.false_eq_true, ↓reduceIte, Session.run_pure] at h
    obtain ⟨rfl, rfl⟩ := Prod.mk.inj h
    exact .cancelled entries hprobe havailable hforce
  | true =>
    simp only [hgoesOn, ↓reduceIte] at h
    obtain ⟨opening, answer, s₁, closing, hsubmission, rfl, hclosing⟩ := exists_submissionRun h
    rw [Session.withEntries_withEntries] at hsubmission
    exact .submitted hprobe hgoesOn hsubmission hclosing

theorem SubmissionRun.ne_cancelled {s s₁ : Session σ} {result : Except Failure Outcome}
    {answer : Option (Except Failure Bool)}
    (h : SubmissionRun d path selected service s result answer s₁) :
    result ≠ .ok .printCancelled := by
  cases h <;> exact nofun

/-- What is asked while pages are printed through a temporary file: the file is removed once, whether
it was printed or not, and it is printed once if it is complete. -/
structure SubmissionCalls (path : Path) (selected : Selection)
    (answer : Option (Except Failure Bool)) (asked : List Call) : Prop where
  unprobed : asked.filter Call.isProbe = []
  prints : asked.filter Call.isPrint = if answer.isSome then [.printFile path] else []
  removes : asked.filter Call.isRemoval = [.remove path]
  complete (hanswer : answer.isSome) :
    asked = .create path :: selected.pages.map .copyPage ++ [.finish, .printFile path, .remove path]

theorem SubmissionRun.exists_calls {s s₁ : Session σ} {result : Except Failure Outcome}
    {answer : Option (Except Failure Bool)}
    (h : SubmissionRun d path selected service s result answer s₁) :
    ∃ asked, (s₁.afterRemoval path).calls = s.calls ++ asked ∧
      SubmissionCalls path selected answer asked := by
  have hfilter {asked : List Call} (hwriting : ∀ call ∈ asked, call.IsWriting) :
      asked.filter Call.isProbe = [] ∧ asked.filter Call.isPrint = [] ∧
        asked.filter Call.isRemoval = [] :=
    ⟨Call.filter_eq_nil_of_isWriting (fun _ => Call.IsWriting.isProbe) hwriting,
      Call.filter_eq_nil_of_isWriting (fun _ => Call.IsWriting.isPrint) hwriting,
      Call.filter_eq_nil_of_isWriting (fun _ => Call.IsWriting.isRemoval) hwriting⟩
  cases h with
  | notCopied hcopy | notThere hcopy _ =>
    obtain ⟨asked, hcalls, hwriting⟩ := (selectionRun_of_run hcopy).exists_calls
    obtain ⟨hprobe, hprint, hremove⟩ := hfilter hwriting
    refine ⟨asked ++ [.remove path], ?_, ?_, ?_, ?_, nofun⟩
    · rw [Session.afterRemoval_calls, hcalls, Session.withEntries_calls, List.append_assoc]
    · rw [List.filter_append, hprobe]
      rfl
    · rw [List.filter_append, hprint]
      rfl
    · rw [List.filter_append, hremove]
      rfl
  | printed hcopy _ hprinted =>
    have hcalls := (selectionRun_of_run hcopy).calls_of_ok
    rw [Session.withEntries_calls, List.append_assoc] at hcalls
    have hwriting : ∀ call ∈ Call.create path :: selected.pages.map .copyPage ++ [.finish],
        call.IsWriting := by
      simp +contextual [or_imp]
    generalize hall : Call.create path :: selected.pages.map .copyPage ++ [.finish] = writing
      at hcalls hwriting
    obtain ⟨hprobe, hprint, hremove⟩ := hfilter hwriting
    refine ⟨writing ++ [.printFile path, .remove path], ?_, ?_, ?_, ?_, fun _ => ?_⟩
    · rw [Session.afterRemoval_calls, Session.calls_of_ask hprinted, hcalls, List.append_assoc,
        List.append_assoc]
      rfl
    · rw [List.filter_append, hprobe]
      rfl
    · rw [List.filter_append, hprint]
      rfl
    · rw [List.filter_append, hremove]
      rfl
    · rw [← hall, List.append_assoc]
      rfl

/-- Up to the removal, nothing is changed but at the path of the temporary file and below it. -/
theorem SubmissionRun.changesWithin (hd : d.WritesBy FileTree.ChangesWithin)
    (hservice : service.ChangesBy FileTree.ChangesWithin) {s s₁ : Session σ}
    {result : Except Failure Outcome} {answer : Option (Except Failure Bool)}
    (h : SubmissionRun d path selected service s result answer s₁) (htree : s.files.IsTree)
    (hfree : s.files.pathExists path = false) : s.files.ChangesWithin path s₁.files := by
  have hcopied {copying : Except Failure CopyReport} {s₂ : Session σ}
      (hcopy : (d.copySelected path selected).run s = (copying, s₂)) :
      s.files.ChangesWithin path s₂.files :=
    (selectionRun_of_run hcopy).invariant hd (fun _ _ h h' => h.trans htree hfree h')
      (.refl _ s.files)
  cases h with
  | notCopied hcopy => exact hcopied hcopy
  | notThere hcopy _ => exact hcopied hcopy
  | @printed _ _ s₂ _ hcopy _ hprint =>
    have hprinted := hservice.printFile path s₂.host
    rw [← Session.files_of_ask hprint] at hprinted
    exact (hcopied hcopy).trans htree hfree hprinted

/-- The temporary file never survives, and nothing but what is at its path and below is touched. The
file is removed once, unless printing was cancelled before there was one. The result is settled before
that, and what comes of the removal is told only if the printer was asked to print. -/
theorem printSelected_removes {σ ω : Type} (d : Document σ ω) (selected : Selection)
    (settings : Settings) (service : PrintService σ) (occasion : Occasion) (s s' : Session σ)
    (result : Except Failure Outcome) (hd : d.WritesBy FileTree.ChangesWithin)
    (hservice : service.ChangesBy FileTree.ChangesWithin) (htree : s.files.IsTree)
    (hfresh : s.files.pathExists
      (Naming.temporaryPath occasion.temporaryDir occasion.token d.extension) = false)
    (hrun : (d.printSelected selected settings service occasion).run s = (result, s')) :
    let path := Naming.temporaryPath occasion.temporaryDir occasion.token d.extension
    s'.files.isFile path = false ∧ s.files.ChangesWithin path s'.files ∧
    (∃ asked, s'.calls = s.calls ++ asked ∧
      asked.filter Call.isRemoval = if result = .ok .printCancelled then [] else [.remove path]) ∧
    (result ≠ .ok .printCancelled → ∃ s₀ answer s₁ closing, s₀.files = s.files ∧
      SubmissionRun d path selected service s₀ result answer s₁ ∧
      s' = (s₁.afterRemoval path).withEntries closing ∧
      Journal.report closing = closingLines (s₁.files.removeIfThere path) answer) := by
  intro path
  cases printRun_of_run hrun with
  | @cancelled beginning probe s₀ entries hprobe _ _ =>
    have hfiles := hservice.files_of_probe hprobe
    refine ⟨?_, ?_, ⟨[.probe], ?_, rfl⟩, fun h => absurd rfl h⟩
    · rw [Session.withEntries_files, hfiles]
      exact FileTree.not_isFile_of_not_pathExists hfresh
    · rw [Session.withEntries_files, hfiles]
      exact .refl _ s.files
    · rw [Session.withEntries_calls, Session.calls_of_ask hprobe, Session.withEntries_calls]
  | @submitted beginning probe s₀ opening _ answer s₁ closing hprobe _ hsubmission hclosing =>
    have hfiles := hservice.files_of_probe hprobe
    have hchanges : s.files.ChangesWithin path s₁.files := by
      rw [← hfiles] at htree hfresh ⊢
      exact hsubmission.changesWithin hd hservice htree hfresh
    obtain ⟨asked, hcalls, hasked⟩ := hsubmission.exists_calls
    refine ⟨s₁.files.isFile_afterRemoval path, ?_, ⟨.probe :: asked, ?_, ?_⟩, fun _ => ?_⟩
    · exact hchanges.trans htree hfresh (FileTree.changesAt_afterRemoval path s₁.files).changesWithin
    · rw [Session.withEntries_calls, hcalls, Session.withEntries_calls, Session.calls_of_ask hprobe,
        Session.withEntries_calls, List.append_assoc]
      rfl
    · rw [if_neg hsubmission.ne_cancelled, List.filter_cons_of_neg (by decide), hasked.removes]
    · exact ⟨s₀.withEntries opening, answer, s₁, closing, hfiles, hsubmission, rfl, hclosing⟩

/-- A printer that is not known to be there, and puts a directory in the place of the file. -/
def blockingPrinter : ScriptedPrinter where
  id := "scripted"
  probe := .missing
  reply := .block

/-- The directory stays, which is reported and does not matter for the result. -/
theorem printSelected_removes_blocked :
    let d : StoredDocument := .ofTexts (.ofText "/tmp/notes") ["a"]
    let service : PrintService Unit := blockingPrinter.toService fun _ _ => ()
    let occasion : Occasion :=
      { time := { year := 2024, month := 5, day := 6, hour := 12, minute := 0, second := 0 }
        temporaryDir := .ofText "/tmp", token := "x" }
    let path := Naming.temporaryPath occasion.temporaryDir occasion.token "pdf"
    let s : Session Unit :=
      { files := { entries := [([Text.encode "tmp"], .directory),
          ([Text.encode "tmp", Text.encode "notes"], .file [1])] }
        outside := () }
    let result := (d.toDocument.printSelected { pages := [.first] } { forcePrint := true } service
      occasion).run s
    result.1 = .ok (.printed true ⟨[.first], []⟩) ∧
      result.2.files.find path = .ok .directory ∧ result.2.files.isFile path = false ∧
      s.files.ChangesWithin path result.2.files := by
  intro d service occasion path s result
  have hresult : result.1 = .ok (.printed true ⟨[.first], []⟩) := by decide +kernel
  have hfind : result.2.files.find path = .ok .directory := by decide +kernel
  have hwrites : (d.toDocument (σ := Unit)).WritesBy FileTree.ChangesWithin :=
    d.savesFile_toDocument.toWritesBy.mono fun h => h.changesAt.changesWithin
  have hservice : service.ChangesBy FileTree.ChangesWithin :=
    (blockingPrinter.changesBy_toService _).mono FileTree.ChangesAt.changesWithin
  have htree : s.files.IsTree := by decide +kernel
  generalize hrun : result = outcome at hresult hfind ⊢
  obtain ⟨value, s'⟩ := outcome
  obtain ⟨hgone, hwithin, -⟩ := printSelected_removes d.toDocument { pages := [.first] } { forcePrint := true }
    service occasion s s' value hwrites hservice htree (by decide +kernel) hrun
  exact ⟨hresult, hfind, hgone, hwithin⟩

variable (d path selected service) in
/-- How printing goes on from where the copying begins: it fails with the copying, or because no file
was made, and the printer is not asked then; or else the complete file is printed, removed, and the
printer's answer is told. -/
structure SubmissionProtocol (s : Session σ) (asked : List Call) (result : Except Failure Outcome)
    (s' : Session σ) : Prop where
  error_iff (failure : Failure) : result = .error failure ↔
    ((d.copySelected path selected).run s).1 = .error failure ∨
      (∃ copied, ((d.copySelected path selected).run s).1 = .ok copied) ∧
        ((d.copySelected path selected).run s).2.files.isFile path = false ∧
        failure = notMade path
  unprinted (failure : Failure) (herror : result = .error failure) :
    asked.filter Call.isPrint = []
  printed {copied : CopyReport} {s₁ : Session σ}
    (hcopy : (d.copySelected path selected).run s = (.ok copied, s₁))
    (hfile : s₁.files.isFile path = true) :
    let (answer, after) := service.printFile path s₁.host
    asked = .create path :: selected.pages.map .copyPage ++
        [.finish, .printFile path, .remove path] ∧
      result = .ok (.printed (decide (answer = .ok true)) copied) ∧
      s'.journal.report = s₁.journal.report ++ removalLines (after.files.removeIfThere path) ++
        [answerLine answer]

theorem SubmissionRun.protocol {s s₁ : Session σ} {result : Except Failure Outcome}
    {answer : Option (Except Failure Bool)} {closing : Journal} {asked : List Call}
    (h : SubmissionRun d path selected service s result answer s₁)
    (hasked : SubmissionCalls path selected answer asked)
    (hclosing : Journal.report closing = closingLines (s₁.files.removeIfThere path) answer) :
    SubmissionProtocol d path selected service s asked result
      ((s₁.afterRemoval path).withEntries closing) := by
  cases h with
  | notCopied hcopy =>
    refine ⟨by simp [hcopy], fun _ _ => hasked.prints, fun {copied s₂} hcopied => ?_⟩
    rw [hcopy] at hcopied
    cases hcopied
  | notThere hcopy hfile =>
    refine ⟨by simp [hcopy, hfile, eq_comm], fun _ _ => hasked.prints,
      fun {copied s₂} hcopied hthere => ?_⟩
    rw [hcopy] at hcopied
    cases hcopied
    rw [hfile] at hthere
    cases hthere
  | printed hcopy hfile hprint =>
    refine ⟨by simp [hcopy, hfile], nofun, fun {copied s₂} hcopied _ => ?_⟩
    rw [hcopy] at hcopied
    cases hcopied
    have hanswer := Session.result_of_ask hprint
    have hreport := Session.report_of_ask hprint
    refine ⟨hasked.complete rfl, by rw [hanswer], ?_⟩
    rw [← Session.files_of_ask hprint, hanswer, Session.withEntries_journal, Journal.report_append,
      Session.afterRemoval_journal, hreport, hclosing, closingLines, List.append_assoc]

variable (d path selected service) in
/-- The protocol of printing; `asked` is what is asked after the first probe. Printing is cancelled iff
there is no printer and it is not forced. -/
structure PrintProtocol (settings : Settings) (s : Session σ) (asked : List Call)
    (result : Except Failure Outcome) (s' : Session σ) : Prop where
  calls : s'.calls = s.calls ++ .probe :: asked
  probed : asked.filter Call.isProbe = []
  printed : (asked.filter Call.isPrint).length ≤ 1
  cancelled_iff : result = .ok .printCancelled ↔
    (service.probe s.host).1.isAvailable = false ∧ settings.forcePrint = false
  cancelled (hcancelled : result = .ok .printCancelled) : asked = []
  goesOn (hresult : result ≠ .ok .printCancelled) : ∃ s₀ : Session σ,
    s₀.files = (service.probe s.host).2.files ∧
    s₀.outside = (service.probe s.host).2.outside ∧
    SubmissionProtocol d path selected service s₀ asked result s'

theorem PrintRun.exists_protocol {settings : Settings} {s s' : Session σ}
    {result : Except Failure Outcome}
    (h : PrintRun d path selected service settings s result s') :
    ∃ asked, PrintProtocol d path selected service settings s asked result s' := by
  cases h with
  | @cancelled beginning probe s₀ entries hprobe havailable hforce =>
    have hprobed := Session.result_of_ask hprobe
    rw [Session.host_withEntries] at hprobed
    refine ⟨[], ?_, rfl, Nat.zero_le 1, by simp [hprobed, havailable, hforce], fun _ => rfl,
      fun hresult => absurd rfl hresult⟩
    rw [Session.withEntries_calls, Session.calls_of_ask hprobe, Session.withEntries_calls]
  | @submitted beginning probe s₀ opening _ answer s₁ closing hprobe hgoesOn hsubmission hclosing =>
    have hprobed := Session.result_of_ask hprobe
    have hfiles := Session.files_of_ask hprobe
    have houtside := Session.outside_of_ask hprobe
    rw [Session.host_withEntries] at hprobed hfiles houtside
    have hcancelled := hsubmission.ne_cancelled
    obtain ⟨asked, hcalls, hasked⟩ := hsubmission.exists_calls
    refine ⟨asked, ?_, hasked.unprobed, ?_, iff_of_false hcancelled ?_, fun h => absurd h hcancelled,
      fun _ => ⟨s₀.withEntries opening, hfiles, houtside, hsubmission.protocol hasked hclosing⟩⟩
    · rw [Session.withEntries_calls, hcalls, Session.withEntries_calls, Session.calls_of_ask hprobe,
        Session.withEntries_calls, List.append_assoc]
      rfl
    · rw [hasked.prints]
      split_ifs <;> simp
    · rintro ⟨hmissing, hforce⟩
      rw [← hprobed, hmissing, hforce] at hgoesOn
      cases hgoesOn

/-- Printing follows its protocol. What is printed of a document of stored pages, and what is told
about the copying, is what an export of these pages writes and tells. -/
theorem printSelected_followsProtocol {σ τ : Type} :
    (∀ {ω : Type} (d : Document σ ω) (selected : Selection) (settings : Settings)
      (service : PrintService σ) (occasion : Occasion) (s s' : Session σ)
      (result : Except Failure Outcome),
      (d.printSelected selected settings service occasion).run s = (result, s') →
      ∃ asked, PrintProtocol d
        (Naming.temporaryPath occasion.temporaryDir occasion.token d.extension) selected service
        settings s asked result s') ∧
    ∀ (d : StoredDocument) (path : Path) (selected : Selection) (copied : CopyReport)
      (s s' : Session σ), (d.toDocument.copySelected path selected).run s = (.ok copied, s') →
      ∃ content, s'.files.find path = .ok (.file content) ∧
        ∀ (settings : Settings) (service : PrintService τ) (occasion : Occasion) (query : Text)
          (exported : Path) (copied' : CopyReport) (r r' : Session τ),
          (d.toDocument.dispatch settings service occasion .save selected query).run r =
            (.ok (.exported exported copied'), r') →
          copied' = copied ∧ r'.files.find exported = .ok (.file content) := by
  constructor
  · intro ω d selected settings service occasion s s' result hrun
    exact (printRun_of_run hrun).exists_protocol
  · intro d path selected copied s s' hcopy
    refine ⟨_, StoredDocument.find_of_run_copySelected hcopy, ?_⟩
    intro settings service occasion query exported copied' r r' hrun
    simp only [dispatch, Session.run_bind, Session.run_note] at hrun
    cases exportRun_of_run hrun with
    | saved _ hexport =>
      obtain ⟨rfl, -⟩ := StoredDocument.written_of_run_copySelected hcopy
      obtain ⟨rfl, -⟩ := StoredDocument.written_of_run_copySelected hexport
      have hfind := StoredDocument.find_of_run_copySelected hexport
      rw [Session.withEntries_files]
      exact ⟨rfl, hfind⟩

/-- Two pages, of which the first cannot be copied: they are printed by force where there is no way to
print, and exported. -/
theorem printSelected_followsProtocol_damaged :
    let d : StoredDocument := (StoredDocument.ofTexts (.ofText "/notes") ["a", "b"]).withDamaged .first
    let second : PageNumber := ⟨2, by decide, by decide⟩
    let selected : Selection := { pages := [.first, second] }
    let occasion : Occasion :=
      { time := { year := 2024, month := 5, day := 6, hour := 12, minute := 0, second := 0 }
        temporaryDir := .ofText "/", token := "x" }
    let path := Naming.temporaryPath occasion.temporaryDir occasion.token "pdf"
    let exported := Path.ofText "/notes_b_20240506_120000.pdf"
    let s : Session Unit := { files := {}, outside := () }
    let printing := (d.toDocument.printSelected selected { forcePrint := true } .unsupported
      occasion).run s
    let copying := (d.toDocument.copySelected path selected).run s
    let exporting := (d.toDocument.dispatch {} .unsupported occasion .save selected "b").run s
    printing.1 = .ok (.printed false ⟨[second], [.first]⟩) ∧
      (∃ asked, PrintProtocol d.toDocument path selected .unsupported { forcePrint := true } s asked
        printing.1 printing.2) ∧
      exporting.1 = .ok (.exported exported ⟨[second], [.first]⟩) ∧
      ∃ content, copying.2.files.find path = .ok (.file content) ∧
        exporting.2.files.find exported = .ok (.file content) := by
  intro d second selected occasion path exported s printing copying exporting
  have hprinted : printing.1 = .ok (.printed false ⟨[second], [.first]⟩) := by decide +kernel
  have hcopied : copying.1 = .ok ⟨[second], [.first]⟩ := by decide +kernel
  have hexported : exporting.1 = .ok (.exported exported ⟨[second], [.first]⟩) := by decide +kernel
  obtain ⟨hprotocol, hcontent⟩ := printSelected_followsProtocol (σ := Unit) (τ := Unit)
  refine ⟨hprinted, ?_, hexported, ?_⟩
  · generalize hrun : printing = outcome
    exact hprotocol _ selected _ .unsupported occasion s outcome.2 outcome.1 hrun
  · generalize hcopy : copying = outcome at hcopied ⊢
    generalize hrun : exporting = outcome' at hexported ⊢
    obtain ⟨value, s₁⟩ := outcome
    obtain ⟨value', s₂⟩ := outcome'
    obtain rfl : value = _ := hcopied
    obtain rfl : value' = _ := hexported
    obtain ⟨content, hfind, hsame⟩ := hcontent d path selected _ s s₁ hcopy
    exact ⟨content, hfind, (hsame {} .unsupported occasion "b" exported _ s s₂ hrun).2⟩

end Document
end PageQuery
