import PageQuery.Proofs.Action.Printing
import PageQuery.Proofs.Scan
import PageQuery.Run

/-!
What was said and asked before does not matter to a run: it only goes in front of what the run says and
asks itself. So each part of a run can be looked at as if the run began with it.
-/
namespace PageQuery

namespace Session

variable {σ α β : Type}

/-- The session with the journal and the calls of an earlier one in front of its own. -/
def after (s past : Session σ) : Session σ :=
  { s with journal := past.journal ++ s.journal, calls := past.calls ++ s.calls }

/-- The session as if nothing had been said and asked. -/
def fresh (s : Session σ) : Session σ := { files := s.files, outside := s.outside }

@[simp] theorem after_files (s past : Session σ) : (s.after past).files = s.files := rfl

@[simp] theorem after_outside (s past : Session σ) : (s.after past).outside = s.outside := rfl

@[simp] theorem after_journal (s past : Session σ) :
    (s.after past).journal = past.journal ++ s.journal := rfl

@[simp] theorem after_calls (s past : Session σ) :
    (s.after past).calls = past.calls ++ s.calls := rfl

@[simp] theorem fresh_after (s : Session σ) : s.fresh.after s = s := by
  simp [fresh, after]

/-- Sessions that agree on the files and on what lies outside them start afresh alike. -/
theorem fresh_congr {s t : Session σ} (hfiles : s.files = t.files) (houtside : s.outside = t.outside) :
    s.fresh = t.fresh := by
  rw [fresh, fresh, hfiles, houtside]

/-- A computation to which the journal and the calls so far make no difference. -/
structure Forgetful (x : StateM (Session σ) α) : Prop where
  run_after (s past : Session σ) : x.run (s.after past) = ((x.run s).1, (x.run s).2.after past)

/-- A run is the run from the fresh session, with what was said and asked before in front. -/
theorem Forgetful.run_eq {x : StateM (Session σ) α} (h : Forgetful x) {s s₀ s' : Session σ} {a : α}
    (hfresh : s.fresh = s₀) (hrun : x.run s₀ = (a, s')) : x.run s = (a, s'.after s) := by
  have hafter := h.run_after s.fresh s
  rwa [fresh_after, hfresh, hrun] at hafter

theorem forgetful_pure (a : α) : Forgetful (pure a : StateM (Session σ) α) :=
  ⟨fun _ _ => rfl⟩

theorem Forgetful.bind {x : StateM (Session σ) α} {f : α → StateM (Session σ) β}
    (hx : Forgetful x) (hf : ∀ a, Forgetful (f a)) : Forgetful (x >>= f) := by
  constructor
  intro s past
  rw [run_bind, run_bind, hx.run_after s past]
  exact (hf _).run_after _ past

/-- A computation may look at the session as long as the journal and the calls make no difference. -/
theorem forgetful_get_bind {f : Session σ → StateM (Session σ) α}
    (hsame : ∀ s past, f (s.after past) = f s) (hf : ∀ s, Forgetful (f s)) :
    Forgetful (get >>= f) := by
  constructor
  intro s past
  rw [run_bind, run_bind, run_get, run_get, hsame]
  exact (hf s).run_after s past

theorem forgetful_report (level : ReportLevel) (message : Text) :
    Forgetful (report level message : StateM (Session σ) Unit) := by
  constructor
  intro s past
  simp [after, withEntries]

theorem forgetful_note (level : LogLevel) (topic : Topic) (text : Text) :
    Forgetful (note level topic text : StateM (Session σ) Unit) := by
  constructor
  intro s past
  simp [after, withEntries]

theorem forgetful_act (work : Host σ → α × Host σ) : Forgetful (act work) := by
  constructor
  intro s past
  simp [after, resume, host]

theorem forgetful_mark (call : Call) : Forgetful (mark call : StateM (Session σ) Unit) := by
  constructor
  intro s past
  simp [after, marked]

theorem forgetful_ask (call : Call) (work : Host σ → α × Host σ) : Forgetful (ask call work) :=
  (forgetful_mark call).bind fun _ => forgetful_act work

theorem forgetful_removeIfThere (path : Path) :
    Forgetful (removeIfThere path : StateM (Session σ) (Except SystemError Bool)) := by
  constructor
  intro s past
  rw [run_removeIfThere, run_removeIfThere]
  simp [after, afterRemoval, marked]

end Session

open Session (Forgetful forgetful_pure forgetful_report forgetful_note forgetful_ask)

namespace TemporaryFile

variable {σ : Type}

theorem forgetful_cleanup (path : Path) :
    Forgetful (cleanup path : StateM (Session σ) Unit) := by
  refine (Session.forgetful_removeIfThere path).bind fun removal => ?_
  rcases removal with e | _ | _
  · exact (forgetful_note ..).bind fun _ => forgetful_report ..
  · exact forgetful_pure ()
  · exact forgetful_note ..

theorem forgetful_discard (path : Path) :
    Forgetful (discard path : StateM (Session σ) Unit) := by
  refine (Session.forgetful_removeIfThere path).bind fun removal => ?_
  cases removal with
  | error e => exact forgetful_note ..
  | ok removed => exact forgetful_pure ()

theorem forgetful_drop (file : TemporaryFile) :
    Forgetful (file.drop : StateM (Session σ) Unit) := by
  unfold drop
  split_ifs
  · exact forgetful_pure ()
  · exact forgetful_discard file.path

end TemporaryFile

namespace Document

variable {σ ω : Type} (d : Document σ ω)

theorem forgetful_scan (m : Query.Matcher) : Forgetful (d.scan m) := by
  constructor
  intro s past
  simp [run_scan, run_scanPages, Session.after, Session.withEntries]

theorem forgetful_copyPages (destination : Path) (writer : ω) (copied : CopyReport)
    (pages : List PageNumber) : Forgetful (d.copyPages destination writer copied pages) := by
  induction pages generalizing writer copied with
  | nil => exact forgetful_pure _
  | cons page more ih =>
    refine (forgetful_ask _ _).bind ?_
    rintro ⟨result, writer⟩
    cases result with
    | ok _ => exact ih ..
    | error failure =>
      dsimp only
      split_ifs
      · exact (forgetful_note ..).bind fun _ => (forgetful_report ..).bind fun _ => ih ..
      · exact forgetful_pure _

theorem forgetful_copySelected (destination : Path) (selected : Selection) :
    Forgetful (d.copySelected destination selected) := by
  refine (forgetful_report ..).bind fun _ => (forgetful_ask _ _).bind fun created => ?_
  cases created with
  | error failure => exact forgetful_pure _
  | ok writer =>
    refine (d.forgetful_copyPages destination writer {} selected.pages).bind ?_
    rintro ⟨result, writer⟩
    cases result with
    | error failure => exact forgetful_pure _
    | ok copied =>
      refine (forgetful_ask _ _).bind fun finished => ?_
      cases finished <;> exact forgetful_pure _

theorem forgetful_exportSelected (selected : Selection) (query : Text) (directory : Option Path)
    (time : Timestamp) : Forgetful (d.exportSelected selected query directory time) := by
  refine Session.forgetful_get_bind (fun _ _ => rfl) fun s => ?_
  refine (d.forgetful_copySelected _ selected).bind fun copying => ?_
  cases copying with
  | ok copied => exact (forgetful_report ..).bind fun _ => forgetful_pure _
  | error failure =>
    refine (Session.forgetful_removeIfThere _).bind fun removal => ?_
    cases removal with
    | ok removed => exact forgetful_pure _
    | error e => exact (forgetful_note ..).bind fun _ => forgetful_pure _

theorem forgetful_confirmPrinter (settings : Settings) (probe : Probe) :
    Forgetful (confirmPrinter settings probe : StateM (Session σ) Bool) := by
  unfold confirmPrinter
  split_ifs
  · exact (forgetful_report ..).bind fun _ => forgetful_pure true
  · exact (forgetful_report ..).bind fun _ => (forgetful_report ..).bind fun _ => forgetful_pure true
  · exact (forgetful_report ..).bind fun _ => (forgetful_report ..).bind fun _ => forgetful_pure false

theorem forgetful_reportSubmitted (service : PrintService σ) (answer : Except Failure Bool) :
    Forgetful (reportSubmitted service answer) := by
  rcases answer with failure | _ | _
  · exact (forgetful_note ..).bind fun _ => (forgetful_report ..).bind fun _ => forgetful_pure false
  · exact (forgetful_report ..).bind fun _ => forgetful_pure false
  · exact (forgetful_report ..).bind fun _ => forgetful_pure true

theorem forgetful_printFrom (file : TemporaryFile) (selected : Selection)
    (service : PrintService σ) : Forgetful (d.printFrom file selected service) := by
  refine (forgetful_report ..).bind fun _ =>
    (d.forgetful_copySelected file.path selected).bind fun copying => ?_
  cases copying with
  | error failure => exact forgetful_pure _
  | ok copied =>
    refine Session.forgetful_get_bind (fun _ _ => rfl) fun s => ?_
    split_ifs
    · refine (forgetful_ask _ _).bind fun answer => ?_
      refine ((TemporaryFile.forgetful_cleanup file.path).bind fun _ => forgetful_pure _).bind
        fun file => ?_
      exact (forgetful_reportSubmitted service answer).bind fun _ => forgetful_pure _
    · exact forgetful_pure _

theorem forgetful_printThrough (path : Path) (selected : Selection) (service : PrintService σ) :
    Forgetful (d.printThrough path selected service) := by
  refine (d.forgetful_printFrom { path } selected service).bind ?_
  rintro ⟨result, file⟩
  exact (TemporaryFile.forgetful_drop file).bind fun _ => forgetful_pure result

theorem forgetful_printSelected (selected : Selection) (settings : Settings)
    (service : PrintService σ) (occasion : Occasion) :
    Forgetful (d.printSelected selected settings service occasion) := by
  refine (forgetful_report ..).bind fun _ => (forgetful_ask _ _).bind fun probe => ?_
  refine (forgetful_confirmPrinter settings probe).bind fun goesOn => ?_
  cases goesOn with
  | true => exact d.forgetful_printThrough _ selected service
  | false => exact forgetful_pure _

theorem forgetful_dispatch (settings : Settings) (service : PrintService σ) (occasion : Occasion)
    (action : Action) (selected : Selection) (query : Text) :
    Forgetful (d.dispatch settings service occasion action selected query) := by
  refine (forgetful_note ..).bind fun _ => ?_
  cases action with
  | list => exact (forgetful_report ..).bind fun _ => forgetful_pure _
  | save => exact d.forgetful_exportSelected selected query settings.outputDir occasion.time
  | print => exact d.forgetful_printSelected selected settings service occasion

theorem forgetful_run (query : Text) (action : Action) (settings : Settings)
    (service : PrintService σ) (occasion : Occasion) :
    Forgetful (d.run query action settings service occasion) := by
  refine (forgetful_note ..).bind fun _ => (d.forgetful_scan _).bind fun found => ?_
  split_ifs
  · exact (forgetful_report ..).bind fun _ => forgetful_pure _
  · refine (forgetful_report ..).bind fun _ => ?_
    exact (d.forgetful_dispatch settings service occasion action _ _).bind fun _ =>
      forgetful_pure _

end Document
end PageQuery
