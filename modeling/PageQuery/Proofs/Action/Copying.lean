import PageQuery.Action.Copying
import PageQuery.Proofs.Document.Writing
import PageQuery.Proofs.Session

/-!
Runs that copy pages: one page after another, and all selected pages into a new document. Each way
through them is a constructor of a relation, and what a run does is read off the relation.
-/
namespace PageQuery

/-- The line about a page that is left out. -/
def skipLine (page : PageNumber) (failure : Failure) : ReportLine :=
  ⟨.warning, "error while copying page " ++ page.render ++ ": " ++ failure.copyCause⟩

/-- What is said of a page that is left out. -/
def skipEntries (destination : Path) (page : PageNumber) (failure : Failure) : Journal :=
  [.record ⟨.warn, .copying, "skipping page " ++ page.render ++ " in " ++ destination.render ++ ": "
      ++ failure.copyCause⟩,
    .line (skipLine page failure)]

/-- The line that announces the copying. -/
def copyingLine (selected : Selection) : ReportLine :=
  ⟨.info, "copying pages: " ++ selected.render⟩

/-- Whether a call goes to the writer of a new document. -/
@[simp] def Call.IsWriting : Call → Prop
  | create _ | copyPage _ | finish => True
  | probe | printFile _ | remove _ => False

namespace Document

variable {σ ω : Type} (d : Document σ ω) (destination : Path)

theorem run_copyPages_ok {writer writer' : ω} {page : PageNumber} {s s' : Session σ}
    (h : (Session.ask (.copyPage page) (d.copyPage page writer)).run s = ((.ok (), writer'), s'))
    (copied : CopyReport) (more : List PageNumber) :
    (d.copyPages destination writer copied (page :: more)).run s =
      (d.copyPages destination writer' { copied with copied := copied.copied ++ [page] } more).run
        s' := by
  rw [copyPages, Session.run_bind, h]

theorem run_copyPages_skip {writer writer' : ω} {page : PageNumber} {failure : Failure}
    {s s' : Session σ}
    (h : (Session.ask (.copyPage page) (d.copyPage page writer)).run s =
      ((.error failure, writer'), s'))
    (hfailure : failure.isRecoverable = true) (copied : CopyReport) (more : List PageNumber) :
    (d.copyPages destination writer copied (page :: more)).run s =
      (d.copyPages destination writer' { copied with skipped := copied.skipped ++ [page] } more).run
        (s'.withEntries (skipEntries destination page failure)) := by
  rw [copyPages, Session.run_bind, h]
  simp only [hfailure, ↓reduceIte, Session.run_bind, Session.run_note, Session.run_report,
    Session.withEntries_withEntries, skipEntries, skipLine, List.singleton_append]

theorem run_copyPages_stop {writer writer' : ω} {page : PageNumber} {failure : Failure}
    {s s' : Session σ}
    (h : (Session.ask (.copyPage page) (d.copyPage page writer)).run s =
      ((.error failure, writer'), s'))
    (hfailure : failure.isRecoverable = false) (copied : CopyReport) (more : List PageNumber) :
    (d.copyPages destination writer copied (page :: more)).run s =
      ((.error failure, writer'), s') := by
  rw [copyPages, Session.run_bind, h]
  simp only [hfailure, Bool.false_eq_true, ↓reduceIte]
  rfl

/-- Copying pages one after another, as a relation between the start and the end of a run. -/
inductive CopyRun : ω → CopyReport → List PageNumber → Session σ →
    Except Failure CopyReport × ω → Session σ → Prop
  | done {writer copied s} : CopyRun writer copied [] s (.ok copied, writer) s
  | copied {writer writer' copied page more s s' result s''}
      (hcopy : (Session.ask (.copyPage page) (d.copyPage page writer)).run s =
        ((.ok (), writer'), s'))
      (hmore : CopyRun writer' { copied with copied := copied.copied ++ [page] } more s'
        result s'') :
      CopyRun writer copied (page :: more) s result s''
  | skipped {writer writer' copied page more failure s s' result s''}
      (hcopy : (Session.ask (.copyPage page) (d.copyPage page writer)).run s =
        ((.error failure, writer'), s'))
      (hfailure : failure.isRecoverable = true)
      (hmore : CopyRun writer' { copied with skipped := copied.skipped ++ [page] } more
        (s'.withEntries (skipEntries destination page failure)) result s'') :
      CopyRun writer copied (page :: more) s result s''
  | stopped {writer writer' copied page more failure s s'}
      (hcopy : (Session.ask (.copyPage page) (d.copyPage page writer)).run s =
        ((.error failure, writer'), s'))
      (hfailure : failure.isRecoverable = false) :
      CopyRun writer copied (page :: more) s (.error failure, writer') s'

section

variable {d destination} {writer : ω} {copied : CopyReport} {pages : List PageNumber}
  {s s' : Session σ} {result : Except Failure CopyReport × ω}

/-- The relation holds of what is computed, and of nothing else. -/
theorem copyRun_iff :
    CopyRun d destination writer copied pages s result s' ↔
      (d.copyPages destination writer copied pages).run s = (result, s') := by
  constructor
  · intro h
    induction h with
    | done => rfl
    | copied hcopy _ ih => rw [run_copyPages_ok d destination hcopy, ih]
    | skipped hcopy hfailure _ ih => rw [run_copyPages_skip d destination hcopy hfailure, ih]
    | stopped hcopy hfailure => rw [run_copyPages_stop d destination hcopy hfailure]
  · intro h
    induction pages generalizing writer copied s with
    | nil =>
      cases h
      exact .done
    | cons page more ih =>
      rcases hcopy : (Session.ask (.copyPage page) (d.copyPage page writer)).run s with
        ⟨⟨copying, writer'⟩, s₁⟩
      cases copying with
      | ok _ =>
        rw [run_copyPages_ok d destination hcopy] at h
        exact .copied hcopy (ih h)
      | error failure =>
        cases hfailure : failure.isRecoverable with
        | true =>
          rw [run_copyPages_skip d destination hcopy hfailure] at h
          exact .skipped hcopy hfailure (ih h)
        | false =>
          rw [run_copyPages_stop d destination hcopy hfailure] at h
          cases h
          exact .stopped hcopy hfailure

/-- Copying asks for pages in their order, and for all of them unless it is stopped. -/
theorem CopyRun.exists_calls (h : CopyRun d destination writer copied pages s result s') :
    ∃ asked, asked <+: pages ∧ s'.calls = s.calls ++ asked.map .copyPage ∧
      ∀ all, result.1 = .ok all → asked = pages := by
  induction h with
  | done => exact ⟨[], List.prefix_rfl, by simp, fun _ _ => rfl⟩
  | copied hcopy _ ih | skipped hcopy _ _ ih =>
    obtain ⟨asked, hprefix, hcalls, hall⟩ := ih
    refine ⟨_ :: asked, List.cons_prefix_cons.mpr ⟨rfl, hprefix⟩, ?_, ?_⟩
    · simp [hcalls, Session.calls_of_ask hcopy]
    · intro all hresult
      rw [hall all hresult]
  | stopped hcopy _ =>
    refine ⟨[_], List.cons_prefix_cons.mpr ⟨rfl, List.nil_prefix⟩, ?_, nofun⟩
    simp [Session.calls_of_ask hcopy]

/-- Copying reports the pages that are left out, and nothing else. -/
theorem CopyRun.exists_report (h : CopyRun d destination writer copied pages s result s') :
    ∃ skips : List (PageNumber × Failure),
      s'.journal.report = s.journal.report ++ skips.map fun k => skipLine k.1 k.2 := by
  induction h with
  | done => exact ⟨[], by simp⟩
  | copied hcopy _ ih =>
    obtain ⟨skips, hreport⟩ := ih
    exact ⟨skips, by rw [hreport, Session.report_of_ask hcopy]⟩
  | @skipped _ _ _ page _ failure _ _ _ _ hcopy _ _ ih =>
    obtain ⟨skips, hreport⟩ := ih
    refine ⟨(page, failure) :: skips, ?_⟩
    rw [hreport, Session.withEntries_journal, Journal.report_append, Session.report_of_ask hcopy]
    simp [skipEntries]
  | stopped hcopy _ => exact ⟨[], by simp [Session.report_of_ask hcopy]⟩

/-- What every call of a writer keeps of the files, copying keeps. -/
theorem CopyRun.invariant {Changes : Path → FileTree → FileTree → Prop} (hd : d.WritesBy Changes)
    {Inv : FileTree → Prop} (hinv : ∀ t t', Inv t → Changes destination t t' → Inv t')
    (h : CopyRun d destination writer copied pages s result s')
    (hwriter : d.Writing destination writer) (hfiles : Inv s.files) :
    Inv s'.files ∧ d.Writing destination result.2 := by
  have hstep {writer : ω} {page : PageNumber} {s s₁ : Session σ}
      {copying : Except Failure Unit × ω} (hwriter : d.Writing destination writer)
      (hcopy : (Session.ask (.copyPage page) (d.copyPage page writer)).run s = (copying, s₁))
      (hfiles : Inv s.files) : Inv s₁.files ∧ d.Writing destination copying.2 := by
    rw [Session.files_of_ask hcopy, ← Session.result_of_ask hcopy]
    exact ⟨hinv _ _ hfiles (hd.copyPage hwriter page s.host), .copied page s.host hwriter⟩
  -- a writer goes on after a failure, so it stays a writer for the destination on every way
  induction h with
  | done => exact ⟨hfiles, hwriter⟩
  | copied hcopy _ ih | skipped hcopy _ _ ih =>
    obtain ⟨hfiles₁, hwriter₁⟩ := hstep hwriter hcopy hfiles
    exact ih hwriter₁ hfiles₁
  | stopped hcopy _ => exact hstep hwriter hcopy hfiles

/-- The page that stops the copying: all pages before it are copied or left out. -/
theorem CopyRun.exists_stop {writer' : ω} {failure : Failure}
    (h : CopyRun d destination writer copied pages s (.error failure, writer') s') :
    ∃ before page after copied' writer₁ s₁, pages = before ++ page :: after ∧
      CopyRun d destination writer copied before s (.ok copied', writer₁) s₁ ∧
      (Session.ask (.copyPage page) (d.copyPage page writer₁)).run s₁ =
        ((.error failure, writer'), s') ∧
      failure.isRecoverable = false := by
  generalize hresult : (Except.error failure, writer') = result at h
  induction h with
  | done => cases hresult
  | copied hcopy _ ih =>
    obtain ⟨before, stop, after, copied', writer₁, s₁, rfl, hbefore, hstop⟩ := ih hresult
    exact ⟨_ :: before, stop, after, copied', writer₁, s₁, rfl, .copied hcopy hbefore, hstop⟩
  | skipped hcopy hskip _ ih =>
    obtain ⟨before, stop, after, copied', writer₁, s₁, rfl, hbefore, hstop⟩ := ih hresult
    exact ⟨_ :: before, stop, after, copied', writer₁, s₁, rfl, .skipped hcopy hskip hbefore, hstop⟩
  | stopped hcopy hfatal =>
    cases hresult
    exact ⟨[], _, _, _, _, _, rfl, .done, hcopy, hfatal⟩

end

/-- Copying selected pages into a new document, after this was announced. -/
inductive SelectionRun (selected : Selection) (s : Session σ) :
    Except Failure CopyReport → Session σ → Prop
  | notStarted {failure s'}
      (hcreate : (Session.ask (.create destination) (d.create destination)).run s =
        (.error failure, s')) :
      SelectionRun selected s (.error failure) s'
  | stopped {writer writer' failure s₁ s'}
      (hcreate : (Session.ask (.create destination) (d.create destination)).run s =
        (.ok writer, s₁))
      (hpages : CopyRun d destination writer {} selected.pages s₁ (.error failure, writer') s') :
      SelectionRun selected s (.error failure) s'
  | notCompleted {writer writer' copied failure s₁ s₂ s'}
      (hcreate : (Session.ask (.create destination) (d.create destination)).run s =
        (.ok writer, s₁))
      (hpages : CopyRun d destination writer {} selected.pages s₁ (.ok copied, writer') s₂)
      (hfinish : (Session.ask .finish (d.finish writer')).run s₂ = (.error failure, s')) :
      SelectionRun selected s (.error failure) s'
  | completed {writer writer' copied s₁ s₂ s'}
      (hcreate : (Session.ask (.create destination) (d.create destination)).run s =
        (.ok writer, s₁))
      (hpages : CopyRun d destination writer {} selected.pages s₁ (.ok copied, writer') s₂)
      (hfinish : (Session.ask .finish (d.finish writer')).run s₂ = (.ok (), s')) :
      SelectionRun selected s (.ok copied) s'

/-- Where the failure of a copying comes from: the new document cannot be started, a page fails for
good after pages that were copied or left out, or the document cannot be completed. -/
inductive FailureSource (selected : Selection) (s : Session σ) (failure : Failure) : Prop
  | create (hcreate : (d.create destination s.host).1 = .error failure)
  | page {writer writer' before page after copied s₁ s₂}
      (hcreate : (Session.ask (.create destination) (d.create destination)).run s =
        (.ok writer, s₁))
      (hpages : selected.pages = before ++ page :: after)
      (hbefore : CopyRun d destination writer {} before s₁ (.ok copied, writer') s₂)
      (hpage : (d.copyPage page writer' s₂.host).1.1 = .error failure)
      (hfatal : failure.isRecoverable = false)
  | finish {writer writer' copied s₁ s₂}
      (hcreate : (Session.ask (.create destination) (d.create destination)).run s =
        (.ok writer, s₁))
      (hpages : CopyRun d destination writer {} selected.pages s₁ (.ok copied, writer') s₂)
      (hfinish : (d.finish writer' s₂.host).1 = .error failure)

variable {d destination} {selected : Selection} {s s' : Session σ}
  {result : Except Failure CopyReport} {copied : CopyReport} {failure : Failure}

theorem selectionRun_of_run
    (h : (d.copySelected destination selected).run s = (result, s')) :
    SelectionRun d destination selected (s.withEntries [.line (copyingLine selected)]) result
      s' := by
  rw [copySelected, Session.run_bind, Session.run_report, Session.run_bind] at h
  rcases hcreate : (Session.ask (.create destination) (d.create destination)).run
    (s.withEntries [.line (copyingLine selected)]) with ⟨created, s₁⟩
  rw [← copyingLine, hcreate] at h
  cases created with
  | error failure =>
    cases h
    exact .notStarted hcreate
  | ok writer =>
    simp only [Session.run_bind] at h
    rcases hcopy : (d.copyPages destination writer {} selected.pages).run s₁ with
      ⟨⟨copying, writer'⟩, s₂⟩
    rw [hcopy] at h
    have hpages := copyRun_iff.mpr hcopy
    cases copying with
    | error failure =>
      cases h
      exact .stopped hcreate hpages
    | ok copied =>
      simp only [Session.run_bind] at h
      rcases hfinish : (Session.ask .finish (d.finish writer')).run s₂ with ⟨finished, s₃⟩
      rw [hfinish] at h
      cases finished with
      | error failure =>
        cases h
        exact .notCompleted hcreate hpages hfinish
      | ok _ =>
        cases h
        exact .completed hcreate hpages hfinish

theorem SelectionRun.invariant {Changes : Path → FileTree → FileTree → Prop}
    (hd : d.WritesBy Changes) {Inv : FileTree → Prop}
    (hinv : ∀ t t', Inv t → Changes destination t t' → Inv t')
    (h : SelectionRun d destination selected s result s') (hfiles : Inv s.files) :
    Inv s'.files := by
  have hstart {created : Except Failure ω} {s₁ : Session σ}
      (hcreate : (Session.ask (.create destination) (d.create destination)).run s = (created, s₁)) :
      Inv s₁.files := by
    rw [Session.files_of_ask hcreate]
    exact hinv _ _ hfiles (hd.create destination s.host)
  have hwriter {writer : ω} {s₁ : Session σ}
      (hcreate : (Session.ask (.create destination) (d.create destination)).run s =
        (.ok writer, s₁)) : d.Writing destination writer :=
    .started (Session.result_of_ask hcreate)
  have hend {writer : ω} {finished : Except Failure Unit} {s₂ s₃ : Session σ}
      (hpages : Inv s₂.files ∧ d.Writing destination writer)
      (hfinish : (Session.ask .finish (d.finish writer)).run s₂ = (finished, s₃)) :
      Inv s₃.files := by
    rw [Session.files_of_ask hfinish]
    exact hinv _ _ hpages.1 (hd.finish hpages.2 s₂.host)
  cases h with
  | notStarted hcreate => exact hstart hcreate
  | stopped hcreate hpages => exact (hpages.invariant hd hinv (hwriter hcreate) (hstart hcreate)).1
  | notCompleted hcreate hpages hfinish =>
    exact hend (hpages.invariant hd hinv (hwriter hcreate) (hstart hcreate)) hfinish
  | completed hcreate hpages hfinish =>
    exact hend (hpages.invariant hd hinv (hwriter hcreate) (hstart hcreate)) hfinish

theorem SelectionRun.failureSource
    (h : SelectionRun d destination selected s (.error failure) s') :
    FailureSource d destination selected s failure := by
  cases h with
  | notStarted hcreate => exact .create (Session.result_of_ask hcreate)
  | stopped hcreate hpages =>
    obtain ⟨before, page, after, copied, writer, s₁, hselected, hbefore, hpage, hfatal⟩ :=
      hpages.exists_stop
    exact .page hcreate hselected hbefore (congrArg Prod.fst (Session.result_of_ask hpage)) hfatal
  | notCompleted hcreate hpages hfinish =>
    exact .finish hcreate hpages (Session.result_of_ask hfinish)

theorem SelectionRun.exists_report (h : SelectionRun d destination selected s result s') :
    ∃ skips : List (PageNumber × Failure),
      s'.journal.report = s.journal.report ++ skips.map fun k => skipLine k.1 k.2 := by
  cases h with
  | notStarted hcreate => exact ⟨[], by simp [Session.report_of_ask hcreate]⟩
  | stopped hcreate hpages => exact Session.report_of_ask hcreate ▸ hpages.exists_report
  | notCompleted hcreate hpages hfinish | completed hcreate hpages hfinish =>
    rw [Session.report_of_ask hfinish, ← Session.report_of_ask hcreate]
    exact hpages.exists_report

/-- Copying selected pages asks only the writer. -/
theorem SelectionRun.exists_calls (h : SelectionRun d destination selected s result s') :
    ∃ asked, s'.calls = s.calls ++ asked ∧ ∀ call ∈ asked, call.IsWriting := by
  have hstart {created : Except Failure ω} {s₁ : Session σ}
      (hcreate : (Session.ask (.create destination) (d.create destination)).run s = (created, s₁)) :
      s₁.calls = s.calls ++ [.create destination] := Session.calls_of_ask hcreate
  cases h with
  | notStarted hcreate => exact ⟨_, hstart hcreate, by simp⟩
  | stopped hcreate hpages =>
    obtain ⟨asked, -, hcalls, -⟩ := hpages.exists_calls
    exact ⟨.create destination :: asked.map .copyPage, by simp [hcalls, hstart hcreate], by simp⟩
  | notCompleted hcreate hpages hfinish | completed hcreate hpages hfinish =>
    obtain ⟨asked, -, hcalls, -⟩ := hpages.exists_calls
    refine ⟨.create destination :: (asked.map .copyPage ++ [.finish]), ?_, ?_⟩
    · simp [Session.calls_of_ask hfinish, hcalls, hstart hcreate]
    · simp +contextual [or_imp]

/-- A document that is completed was started, and all selected pages were asked for. -/
theorem SelectionRun.calls_of_ok
    (h : SelectionRun d destination selected s (.ok copied) s') :
    s'.calls = s.calls ++ .create destination :: selected.pages.map .copyPage ++ [.finish] := by
  cases h with
  | completed hcreate hpages hfinish =>
    obtain ⟨asked, -, hcalls, hall⟩ := hpages.exists_calls
    rw [hall _ rfl] at hcalls
    rw [Session.calls_of_ask hfinish, hcalls, Session.calls_of_ask hcreate]
    simp

/-- Copying to a path where nothing was changes at most the file there. -/
theorem changesFileAt_of_run_copySelected (hd : d.WritesBy FileTree.ChangesFileAt)
    (h : (d.copySelected destination selected).run s = (result, s'))
    (hfree : s.files.pathExists destination = false) :
    s.files.ChangesFileAt destination s'.files :=
  (selectionRun_of_run h).invariant hd (fun _ _ hsame hchange => hsame.trans hfree hchange)
    (FileTree.changesFileAt_refl destination s.files)

/-- A document that was copied to a path where nothing was is a file there. -/
theorem isFile_of_run_copySelected (hd : d.SavesFile)
    (h : (d.copySelected destination selected).run s = (.ok copied, s'))
    (hfree : s.files.pathExists destination = false) : s'.files.isFile destination = true := by
  cases selectionRun_of_run h with
  | @completed _ _ _ _ s₂ _ hcreate hpages hfinish =>
    have hwriter : d.Writing destination _ := .started (Session.result_of_ask hcreate)
    have hstarted : s.files.ChangesFileAt destination _ := Session.files_of_ask hcreate ▸
      hd.create destination (s.withEntries [.line (copyingLine selected)]).host
    obtain ⟨hchanges, hwriter'⟩ := hpages.invariant hd.toWritesBy
      (fun _ _ hsame hchange => hsame.trans hfree hchange) hwriter hstarted
    have hsaved := hd.saved hwriter' s₂.host (fun key => hchanges.holdsAtMostFile hfree)
      (Session.result_of_ask hfinish)
    rwa [← Session.files_of_ask hfinish] at hsaved

end Document
end PageQuery
