import Mathlib.Data.List.Nodup
import PageQuery.Document.Scripted
import PageQuery.Proofs.Action.Copying
import PageQuery.Proofs.Document.Asking
import PageQuery.Proofs.Page.Selection

/-!
The copying of selected pages against the answers of the document: which calls are made, what is
told of each page, and what comes of it all.
-/
namespace PageQuery

inductive Verdict where
  | copied
  | skipped (cause : Text)
  | stopped (failure : Failure)
deriving DecidableEq

/-- Pages are left out for failures of extraction, of copying and of printing; any other failure is
the end. -/
def verdict : Except Failure Unit → Verdict
  | .ok () => .copied
  | .error (.copy _ cause) => .skipped cause
  | .error (.extraction page cause) => .skipped (Failure.extraction page cause).message
  | .error (.print message) => .skipped (Failure.print message).message
  | .error failure => .stopped failure

theorem verdict_of_recoverable {failure : Failure} (h : failure.isRecoverable = true) :
    verdict (.error failure) = .skipped failure.copyCause := by
  cases failure <;> first | rfl | cases h

theorem verdict_of_not_recoverable {failure : Failure} (h : failure.isRecoverable = false) :
    verdict (.error failure) = .stopped failure := by
  cases failure <;> first | rfl | cases h

namespace Attempt

def isCopied (a : Attempt) : Bool := verdict a.answer = .copied

def warning? (a : Attempt) : Option ReportLine :=
  match verdict a.answer with
  | .skipped cause =>
    some ⟨.warning, "error while copying page " ++ a.page.render ++ ": " ++ cause⟩
  | _ => none

def stops (a : Attempt) : Bool :=
  match verdict a.answer with
  | .stopped _ => true
  | _ => false

/-- Whether the copy failed with a failure that concerns the page alone. -/
def FailsAlone (a : Attempt) : Prop :=
  (∃ page cause, a.answer = .error (.extraction page cause)) ∨
    (∃ page cause, a.answer = .error (.copy page cause)) ∨
    ∃ message, a.answer = .error (.print message)

/-- The attempts up to the first one that ends the copying. -/
def upToStop : List Attempt → List Attempt
  | [] => []
  | a :: more => if a.stops then [a] else a :: upToStop more

def copiedPages (attempts : List Attempt) : List PageNumber :=
  (attempts.filter isCopied).map page

def skippedPages (attempts : List Attempt) : List PageNumber :=
  (attempts.filter fun a => a.warning?.isSome).map page

variable {page : PageNumber} {failure : Failure} {a : Attempt} {attempts : List Attempt}

theorem stops_iff : a.stops = true ↔ ∃ failure, verdict a.answer = .stopped failure := by
  unfold stops
  cases verdict a.answer <;> simp

theorem verdict_eq_stopped_iff :
    verdict a.answer = .stopped failure ↔ a.answer = .error failure ∧ ¬ a.FailsAlone := by
  obtain ⟨page, answer⟩ := a
  cases answer with
  | ok done => simp [verdict]
  | error other => cases other <;> simp [verdict, FailsAlone]

theorem isSome_warning?_iff : a.warning?.isSome = true ↔ a.FailsAlone := by
  obtain ⟨page, answer⟩ := a
  cases answer with
  | ok done => simp [warning?, FailsAlone, verdict]
  | error failure => cases failure <;> simp [warning?, FailsAlone, verdict]

theorem warning?_of_recoverable (page : PageNumber) (h : failure.isRecoverable = true) :
    warning? ⟨page, .error failure⟩ = some (skipLine page failure) := by
  rw [warning?, verdict_of_recoverable h]
  rfl

theorem not_stops_of_recoverable (h : failure.isRecoverable = true) :
    stops ⟨page, .error failure⟩ = false := by
  rw [stops, verdict_of_recoverable h]

theorem not_isCopied_error : isCopied ⟨page, .error failure⟩ = false := by
  cases failure <;> rfl

theorem stops_of_not_recoverable (page : PageNumber) (h : failure.isRecoverable = false) :
    stops ⟨page, .error failure⟩ = true := by
  rw [stops, verdict_of_not_recoverable h]

/-- A page that does not end the copying is copied or left out, and not both. -/
theorem isSome_warning?_of_not_stops (h : a.stops = false) :
    a.warning?.isSome = !a.isCopied := by
  unfold stops at h
  unfold warning? isCopied
  cases hverdict : verdict a.answer with
  | copied => simp
  | skipped cause => simp
  | stopped failure => simp [hverdict] at h

theorem upToStop_cons_of_stops (h : a.stops = true) (more : List Attempt) :
    upToStop (a :: more) = [a] := if_pos h

theorem upToStop_cons_of_not_stops (h : a.stops = false) (more : List Attempt) :
    upToStop (a :: more) = a :: upToStop more := if_neg (by simp [h])

theorem upToStop_prefix (attempts : List Attempt) : upToStop attempts <+: attempts := by
  induction attempts with
  | nil => exact List.prefix_rfl
  | cons a more ih =>
    cases ha : a.stops with
    | true =>
      rw [upToStop_cons_of_stops ha]
      exact ⟨more, rfl⟩
    | false =>
      rw [upToStop_cons_of_not_stops ha]
      exact List.cons_prefix_cons.mpr ⟨rfl, ih⟩

/-- Only the last of the attempts can end the copying. -/
theorem not_stops_of_mem_dropLast (h : a ∈ (upToStop attempts).dropLast) : a.stops = false := by
  induction attempts with
  | nil => cases h
  | cons b more ih =>
    cases hb : b.stops with
    | true =>
      rw [upToStop_cons_of_stops hb] at h
      cases h
    | false =>
      rw [upToStop_cons_of_not_stops hb] at h
      cases htried : upToStop more with
      | nil =>
        rw [htried] at h
        cases h
      | cons c rest =>
        rw [htried, List.dropLast_cons_cons] at h
        rcases List.mem_cons.mp h with rfl | hrest
        · exact hb
        · exact ih (by rwa [htried])

theorem upToStop_eq_self (h : ∀ a ∈ upToStop attempts, a.stops = false) :
    upToStop attempts = attempts := by
  induction attempts with
  | nil => rfl
  | cons a more ih =>
    cases ha : a.stops with
    | true =>
      rw [upToStop_cons_of_stops ha] at h
      rw [h a List.mem_cons_self] at ha
      cases ha
    | false =>
      rw [upToStop_cons_of_not_stops ha] at h ⊢
      rw [ih fun b hb => h b (List.mem_cons_of_mem a hb)]

theorem mem_skippedPages {page : PageNumber} :
    page ∈ skippedPages attempts ↔ ∃ a ∈ attempts, a.page = page ∧ a.FailsAlone := by
  simp only [skippedPages, List.mem_map, List.mem_filter, isSome_warning?_iff, and_assoc,
    and_comm (a := FailsAlone _)]

theorem mem_copiedPages {page : PageNumber} :
    page ∈ copiedPages attempts ↔ ∃ a ∈ attempts, a.page = page ∧ a.isCopied = true := by
  simp only [copiedPages, List.mem_map, List.mem_filter, and_assoc, and_comm (a := _ = true)]

theorem parts_of_not_stops (hasc : (attempts.map Attempt.page).Pairwise (· < ·))
    (hgo : ∀ a ∈ attempts, a.stops = false) :
    (copiedPages attempts).Pairwise (· < ·) ∧ (skippedPages attempts).Pairwise (· < ·) ∧
      (copiedPages attempts).Disjoint (skippedPages attempts) ∧
      ∀ page, page ∈ attempts.map Attempt.page ↔
        page ∈ copiedPages attempts ∨ page ∈ skippedPages attempts := by
  have hfails {a : Attempt} (ha : a ∈ attempts) : a.FailsAlone ↔ a.isCopied = false := by
    rw [← isSome_warning?_iff, isSome_warning?_of_not_stops (hgo a ha), Bool.not_eq_true']
  refine ⟨hasc.sublist (List.filter_sublist.map Attempt.page),
    hasc.sublist (List.filter_sublist.map Attempt.page), ?_, ?_⟩
  · intro page hcopied hskipped
    obtain ⟨a, ha, rfl, hisCopied⟩ := mem_copiedPages.mp hcopied
    obtain ⟨b, hb, hpage, hfailsAlone⟩ := mem_skippedPages.mp hskipped
    -- no page is tried twice, so both are the same attempt
    obtain rfl := List.inj_on_of_nodup_map hasc.nodup hb ha hpage
    rw [(hfails hb).mp hfailsAlone] at hisCopied
    cases hisCopied
  · intro page
    rw [List.mem_map, mem_copiedPages, mem_skippedPages]
    constructor
    · rintro ⟨a, ha, hpage⟩
      cases hisCopied : a.isCopied with
      | true => exact .inl ⟨a, ha, hpage, hisCopied⟩
      | false => exact .inr ⟨a, ha, hpage, (hfails ha).mpr hisCopied⟩
    · rintro (⟨a, ha, hpage, -⟩ | ⟨a, ha, hpage, -⟩)
      · exact ⟨a, ha, hpage⟩
      · exact ⟨a, ha, hpage⟩

end Attempt

/-- What a document answers when it is asked for a new document: at the start, for each page,
whatever came of the pages before it, and at the end. -/
structure Answers where
  created : Except Failure Unit
  attempts : List Attempt := []
  finished : Option (Except Failure Unit) := none

namespace Answers

/-- The attempts that are made: after a failure to start there are none. -/
def tried (answers : Answers) : List Attempt := Attempt.upToStop answers.attempts

/-- Whether the document is started and no page ends the copying. -/
def GoesThrough (answers : Answers) : Prop :=
  answers.created = .ok () ∧ ∀ a ∈ answers.tried, a.stops = false

end Answers

namespace Document

open Attempt (copiedPages skippedPages upToStop)

variable {σ ω : Type}

def answers (d : Document σ ω) (destination : Path) (pages : List PageNumber) (h : Host σ) :
    Answers :=
  match d.create destination h with
  | (.error failure, _) => { created := .error failure }
  | (.ok writer, h) =>
    let (attempts, writer, h) := d.askEach writer h.afresh pages
    { created := .ok (), attempts, finished := some (d.finish writer h.afresh).1 }

/-- What copying pages does with the answers, of which the last one left `ended`. -/
structure Follows (copied : CopyReport) (s : Session σ) (attempts : List Attempt)
    (ended : ω × Host σ) (result : Except Failure CopyReport × ω) (s' : Session σ) : Prop where
  calls : s'.calls = s.calls ++ (upToStop attempts).map fun a => .copyPage a.page
  report : s'.journal.report = s.journal.report ++ (upToStop attempts).filterMap Attempt.warning?
  error_iff (failure : Failure) :
    result.1 = .error failure ↔ ∃ a ∈ upToStop attempts, verdict a.answer = .stopped failure
  wentOn {all : CopyReport} (hall : result.1 = .ok all) :
    all.copied = copied.copied ++ copiedPages attempts ∧
      all.skipped = copied.skipped ++ skippedPages attempts ∧
      result.2 = ended.1 ∧ s'.host = ended.2.afresh

variable {d : Document σ ω} {destination : Path} {writer : ω} {copied : CopyReport}
  {pages : List PageNumber} {s s' : Session σ} {result : Except Failure CopyReport × ω}

/-- One more answer in front, after which the copying goes on. -/
theorem Follows.cons {s₁ : Session σ} {copied₁ : CopyReport} {a : Attempt}
    {attempts : List Attempt} {ended : ω × Host σ}
    (h : Follows copied₁ s₁ attempts ended result s') (hstops : a.stops = false)
    (hcalls : s₁.calls = s.calls ++ [.copyPage a.page])
    (hreport : s₁.journal.report = s.journal.report ++ a.warning?.toList)
    (hcopied : copied₁.copied = copied.copied ++ copiedPages [a])
    (hskipped : copied₁.skipped = copied.skipped ++ skippedPages [a]) :
    Follows copied s (a :: attempts) ended result s' := by
  have htried := Attempt.upToStop_cons_of_not_stops hstops attempts
  constructor
  · rw [h.calls, hcalls, htried, List.map_cons, List.append_assoc, List.singleton_append]
  · rw [h.report, hreport, htried, List.append_assoc, List.filterMap_cons]
    cases a.warning? <;> rfl
  · intro failure
    have hnot : verdict a.answer ≠ .stopped failure := by
      intro hverdict
      rw [Attempt.stops_iff.mpr ⟨failure, hverdict⟩] at hstops
      cases hstops
    rw [h.error_iff, htried]
    simp [hnot]
  · intro all hall
    obtain ⟨hallCopied, hallSkipped, hended⟩ := h.wentOn hall
    refine ⟨?_, ?_, hended⟩
    · rw [hallCopied, hcopied, List.append_assoc, copiedPages, copiedPages, ← List.map_append,
        ← List.filter_append, List.singleton_append, copiedPages]
    · rw [hallSkipped, hskipped, List.append_assoc, skippedPages, skippedPages, ← List.map_append,
        ← List.filter_append, List.singleton_append, skippedPages]

theorem CopyRun.follows (h : CopyRun d destination writer copied pages s result s') :
    Follows copied s (d.askEach writer s.host pages).1 (d.askEach writer s.host pages).2 result
      s' := by
  induction h with
  | done =>
    constructor
    · simp [upToStop]
    · simp [upToStop]
    · simp [upToStop]
    · intro all hall
      cases hall
      exact ⟨(List.append_nil _).symm, (List.append_nil _).symm, rfl, rfl⟩
  | @copied _ _ _ page _ _ _ _ _ hcopy _ ih =>
    obtain ⟨h', hanswer, hhost⟩ := Session.host_of_ask hcopy
    rw [d.askEach_cons hanswer]
    rw [hhost] at ih
    refine ih.cons (a := ⟨page, .ok ()⟩) rfl (Session.calls_of_ask hcopy) ?_ rfl ?_
    · rw [Session.report_of_ask hcopy]
      exact (List.append_nil _).symm
    · exact (List.append_nil _).symm
  | @skipped _ _ _ page _ failure _ _ _ _ hcopy hfailure _ ih =>
    obtain ⟨h', hanswer, hhost⟩ := Session.host_of_ask hcopy
    rw [d.askEach_cons hanswer]
    rw [Session.host_withEntries, hhost] at ih
    have hwarning := Attempt.warning?_of_recoverable page hfailure
    refine ih.cons (Attempt.not_stops_of_recoverable hfailure) ?_ ?_ ?_ ?_
    · rw [Session.withEntries_calls, Session.calls_of_ask hcopy]
    · rw [Session.withEntries_journal, Journal.report_append, Session.report_of_ask hcopy, hwarning]
      rfl
    · simp [copiedPages, Attempt.not_isCopied_error]
    · simp [skippedPages, hwarning]
  | @stopped _ _ _ page _ failure _ _ hcopy hfailure =>
    obtain ⟨h', hanswer, -⟩ := Session.host_of_ask hcopy
    have hstops := Attempt.stops_of_not_recoverable page hfailure
    have hverdict := verdict_of_not_recoverable hfailure
    rw [d.askEach_cons hanswer]
    constructor
    · rw [Attempt.upToStop_cons_of_stops hstops, Session.calls_of_ask hcopy]
      rfl
    · rw [Attempt.upToStop_cons_of_stops hstops, Session.report_of_ask hcopy]
      simp [Attempt.warning?, hverdict]
    · intro other
      rw [Attempt.upToStop_cons_of_stops hstops]
      simp [hverdict]
    · intro all hall
      cases hall

/-- The pages tried are selected ones in ascending order, so each is tried at most once. None is
tried after the first failure that does not concern the page alone, and all are if there is none. -/
structure TriesInOrder (answers : Answers) (selected : Selection) : Prop where
  tried_prefix : answers.tried.map Attempt.page <+: selected.pages
  ascending : (answers.tried.map Attempt.page).Pairwise (· < ·)
  stops_last : ∀ a ∈ answers.tried.dropLast, a.stops = false
  tries_all : answers.GoesThrough → answers.tried.map Attempt.page = selected.pages

/-- What the copying asks for and tells, and what comes of it, by the answers of the document. -/
structure CopyProtocol (answers : Answers) (destination : Path) (selected : Selection)
    (asked : List Call) (lines : Report) (result : Except Failure CopyReport) : Prop
    extends TriesInOrder answers selected where
  calls : ∃ ending, asked = .create destination :: answers.tried.map (fun a => .copyPage a.page) ++
      ending ∧
    (answers.GoesThrough ∧ ending = [.finish] ∨ ¬ answers.GoesThrough ∧ ending = [])
  ok_iff : (∃ copied, result = .ok copied) ↔
    answers.GoesThrough ∧ answers.finished = some (.ok ())
  error_iff (failure : Failure) : result = .error failure ↔
    answers.created = .error failure ∨
      (∃ a ∈ answers.tried, a.answer = .error failure ∧ ¬ a.FailsAlone) ∨
      answers.GoesThrough ∧ answers.finished = some (.error failure)
  parts {copied : CopyReport} (hresult : result = .ok copied) :
    copied.copied.Pairwise (· < ·) ∧ copied.skipped.Pairwise (· < ·) ∧
      copied.copied.Disjoint copied.skipped ∧
      ∀ page, page ∈ selected.pages ↔ page ∈ copied.copied ∨ page ∈ copied.skipped
  mem_skipped {copied : CopyReport} (hresult : result = .ok copied) (page : PageNumber) :
    page ∈ copied.skipped ↔ ∃ a ∈ answers.tried, a.page = page ∧ a.FailsAlone
  lines_eq : lines = copyingLine selected :: answers.tried.filterMap Attempt.warning?
  warned {copied : CopyReport} (hresult : result = .ok copied) :
    skippedPages answers.tried = copied.skipped

theorem answers_of_create_error {failure : Failure}
    (h : (Session.ask (.create destination) (d.create destination)).run s = (.error failure, s'))
    (pages : List PageNumber) :
    d.answers destination pages s.host = { created := .error failure } := by
  obtain ⟨h', hcreate, -⟩ := Session.host_of_ask h
  rw [answers, hcreate]

theorem answers_of_create_ok
    (h : (Session.ask (.create destination) (d.create destination)).run s = (.ok writer, s'))
    (pages : List PageNumber) :
    d.answers destination pages s.host =
      { created := .ok ()
        attempts := (d.askEach writer s'.host pages).1
        finished := some (d.finish (d.askEach writer s'.host pages).2.1
          (d.askEach writer s'.host pages).2.2.afresh).1 } := by
  obtain ⟨h', hcreate, hhost⟩ := Session.host_of_ask h
  rw [answers, hcreate, hhost]
  rfl

theorem Follows.not_stops {attempts : List Attempt} {ended : ω × Host σ} {all : CopyReport}
    (h : Follows copied s attempts ended result s') (hall : result.1 = .ok all) :
    ∀ a ∈ upToStop attempts, a.stops = false := by
  intro a ha
  rw [Bool.eq_false_iff]
  intro hstops
  obtain ⟨failure, hverdict⟩ := Attempt.stops_iff.mp hstops
  rw [(h.error_iff failure).mpr ⟨a, ha, hverdict⟩] at hall
  cases hall

section

variable {selected : Selection} {attempts : List Attempt}

theorem triesInOrder_of_started {finished : Option (Except Failure Unit)}
    (hpages : attempts.map Attempt.page = selected.pages) :
    TriesInOrder { created := .ok (), attempts, finished } selected := by
  have hprefix : (upToStop attempts).map Attempt.page <+: selected.pages := by
    rw [← hpages]
    exact (Attempt.upToStop_prefix attempts).map Attempt.page
  constructor
  · exact hprefix
  · exact selected.ascending.sublist hprefix.sublist
  · exact fun a ha => Attempt.not_stops_of_mem_dropLast ha
  · intro hgoes
    rw [Answers.tried, Attempt.upToStop_eq_self hgoes.2, hpages]

theorem copyProtocol_notStarted (destination : Path) (selected : Selection) (failure : Failure) :
    CopyProtocol { created := .error failure } destination selected [.create destination]
      [copyingLine selected] (.error failure) := by
  have hnot : ¬ Answers.GoesThrough { created := .error failure } := nofun
  refine ⟨⟨List.nil_prefix, List.Pairwise.nil, nofun, fun hgoes => absurd hgoes hnot⟩, ?_, ?_, ?_,
    nofun, nofun, rfl, nofun⟩
  · exact ⟨[], rfl, .inr ⟨hnot, rfl⟩⟩
  · exact ⟨nofun, fun h => absurd h.1 hnot⟩
  · simp [hnot, Answers.tried, upToStop]

theorem copyProtocol_stopped {finished : Option (Except Failure Unit)} {failure : Failure}
    (hpages : attempts.map Attempt.page = selected.pages)
    (hstops : ∀ other, failure = other ↔
      ∃ a ∈ upToStop attempts, verdict a.answer = .stopped other) :
    CopyProtocol { created := .ok (), attempts, finished } destination selected
      (.create destination :: (upToStop attempts).map fun a => .copyPage a.page)
      (copyingLine selected :: (upToStop attempts).filterMap Attempt.warning?)
      (.error failure) := by
  have hnot : ¬ Answers.GoesThrough { created := .ok (), attempts, finished } := by
    intro hgoes
    obtain ⟨a, ha, hverdict⟩ := (hstops failure).mp rfl
    have hgoesOn := hgoes.2 a ha
    rw [Attempt.stops_iff.mpr ⟨failure, hverdict⟩] at hgoesOn
    cases hgoesOn
  refine ⟨triesInOrder_of_started hpages, ?_, ?_, ?_, nofun, nofun, rfl, nofun⟩
  · exact ⟨[], (List.append_nil _).symm, .inr ⟨hnot, rfl⟩⟩
  · exact ⟨nofun, fun h => absurd h.1 hnot⟩
  · intro other
    rw [Except.error.injEq, hstops]
    simp only [Attempt.verdict_eq_stopped_iff, Answers.tried, hnot, false_and, or_false,
      reduceCtorEq, false_or]

theorem copyProtocol_finished {finished : Except Failure Unit}
    {result : Except Failure CopyReport}
    (hpages : attempts.map Attempt.page = selected.pages)
    (hgoesOn : ∀ a ∈ upToStop attempts, a.stops = false)
    (hresult : result = finished.map fun _ => ⟨copiedPages attempts, skippedPages attempts⟩) :
    CopyProtocol { created := .ok (), attempts, finished := some finished } destination selected
      (.create destination :: (upToStop attempts).map (fun a => .copyPage a.page) ++ [.finish])
      (copyingLine selected :: (upToStop attempts).filterMap Attempt.warning?) result := by
  have hgoes : Answers.GoesThrough { created := .ok (), attempts, finished := some finished } :=
    ⟨rfl, hgoesOn⟩
  have hall := Attempt.upToStop_eq_self hgoesOn
  have hcopied {copied : CopyReport} (hok : result = .ok copied) :
      copied = ⟨copiedPages attempts, skippedPages attempts⟩ := by
    obtain ⟨-, -, hparts⟩ := Except.map_eq_ok_iff.mp (hresult.symm.trans hok)
    exact hparts.symm
  refine ⟨triesInOrder_of_started hpages, ?_, ?_, ?_, ?_, ?_, rfl, ?_⟩
  · exact ⟨[.finish], rfl, .inl ⟨hgoes, rfl⟩⟩
  · rw [hresult]
    cases finished <;> simp [hgoes, Except.map]
  · intro failure
    have hnone : ¬ ∃ a ∈ upToStop attempts, a.answer = .error failure ∧ ¬ a.FailsAlone := by
      rintro ⟨a, ha, hfails⟩
      have hstops := Attempt.stops_iff.mpr ⟨failure, Attempt.verdict_eq_stopped_iff.mpr hfails⟩
      rw [hgoesOn a ha] at hstops
      cases hstops
    rw [hresult, Except.map_eq_error_iff]
    simp [Answers.tried, hnone, hgoes]
  · intro copied hok
    have hasc : (attempts.map Attempt.page).Pairwise (· < ·) := hpages ▸ selected.ascending
    have hparts := Attempt.parts_of_not_stops hasc fun a ha => hgoesOn a (by rwa [hall])
    rw [hpages] at hparts
    rw [hcopied hok]
    exact hparts
  · intro copied hok page
    rw [hcopied hok, Answers.tried, hall, Attempt.mem_skippedPages]
  · intro copied hok
    rw [hcopied hok, Answers.tried, hall]

end

theorem CopyRun.after_create {selected : Selection} {s₁ : Session σ}
    (hcreate : (Session.ask (.create destination) (d.create destination)).run
      (s.withEntries [.line (copyingLine selected)]) = (.ok writer, s₁))
    (hpages : CopyRun d destination writer {} selected.pages s₁ result s') :
    s'.calls = s.calls ++ .create destination ::
        (upToStop (d.askEach writer s₁.host selected.pages).1).map (fun a => .copyPage a.page) ∧
      s'.journal.report = s.journal.report ++ copyingLine selected ::
        (upToStop (d.askEach writer s₁.host selected.pages).1).filterMap Attempt.warning? := by
  have hfollows := hpages.follows
  constructor
  · rw [hfollows.calls, Session.calls_of_ask hcreate, Session.withEntries_calls, List.append_assoc,
      List.singleton_append]
  · rw [hfollows.report, Session.report_of_ask hcreate, Session.withEntries_journal,
      Journal.report_append, List.append_assoc]
    rfl

theorem CopyRun.finished_eq {selected : Selection} {s₁ s₂ : Session σ} {writer' : ω}
    {finished : Except Failure Unit}
    (hpages : CopyRun d destination writer {} selected.pages s₁ (.ok copied, writer') s₂)
    (hfinish : (Session.ask .finish (d.finish writer')).run s₂ = (finished, s')) :
    (d.finish (d.askEach writer s₁.host selected.pages).2.1
      (d.askEach writer s₁.host selected.pages).2.2.afresh).1 = finished ∧
    copied = ⟨copiedPages (d.askEach writer s₁.host selected.pages).1,
      skippedPages (d.askEach writer s₁.host selected.pages).1⟩ := by
  obtain ⟨hcopied, hskipped, hwriter, hhost⟩ := hpages.follows.wentOn rfl
  constructor
  · rw [← hwriter, ← hhost]
    exact Session.result_of_ask hfinish
  · cases copied
    exact congrArg₂ CopyReport.mk hcopied hskipped

/-- Copying selected pages goes by the answers of the document alone: the selected pages are asked
for in ascending order up to the first failure for good, the document is completed iff there is none,
and each page that is left out is told of. -/
theorem copySelected_followsAnswers {σ ω : Type} (d : Document σ ω) (destination : Path)
    (selected : Selection) (s s' : Session σ) (result : Except Failure CopyReport)
    (hrun : (d.copySelected destination selected).run s = (result, s')) :
    ∃ asked lines, s'.calls = s.calls ++ asked ∧
      s'.journal.report = s.journal.report ++ lines ∧
      CopyProtocol (d.answers destination selected.pages s.host) destination selected asked lines
        result := by
  rw [← Session.host_withEntries s [.line (copyingLine selected)]]
  cases selectionRun_of_run hrun with
  | @notStarted failure _ hcreate =>
    rw [answers_of_create_error hcreate]
    refine ⟨_, _, ?_, ?_, copyProtocol_notStarted destination selected failure⟩
    · rw [Session.calls_of_ask hcreate, Session.withEntries_calls]
    · rw [Session.report_of_ask hcreate, Session.withEntries_journal, Journal.report_append]
      rfl
  | @stopped writer _ failure s₁ _ hcreate hpages =>
    obtain ⟨hcalls, hreport⟩ := hpages.after_create hcreate
    rw [answers_of_create_ok hcreate]
    refine ⟨_, _, hcalls, hreport, copyProtocol_stopped (d.map_page_askEach _ _ _) ?_⟩
    intro other
    rw [← hpages.follows.error_iff other, Except.error.injEq]
  | @notCompleted writer _ copied failure s₁ s₂ _ hcreate hpages hfinish =>
    obtain ⟨hcalls, hreport⟩ := hpages.after_create hcreate
    obtain ⟨hfinished, -⟩ := hpages.finished_eq hfinish
    rw [answers_of_create_ok hcreate, hfinished]
    refine ⟨_, _, ?_, ?_, copyProtocol_finished (d.map_page_askEach _ _ _)
      (hpages.follows.not_stops rfl) rfl⟩
    · rw [Session.calls_of_ask hfinish, hcalls, List.append_assoc]
    · rw [Session.report_of_ask hfinish, hreport]
  | @completed writer _ copied s₁ s₂ _ hcreate hpages hfinish =>
    obtain ⟨hcalls, hreport⟩ := hpages.after_create hcreate
    obtain ⟨hfinished, hcopied⟩ := hpages.finished_eq hfinish
    rw [answers_of_create_ok hcreate, hfinished]
    refine ⟨_, _, ?_, ?_, copyProtocol_finished (d.map_page_askEach _ _ _)
      (hpages.follows.not_stops rfl) (congrArg Except.ok hcopied)⟩
    · rw [Session.calls_of_ask hfinish, hcalls, List.append_assoc]
    · rw [Session.report_of_ask hfinish, hreport]

/-- Five pages: the second and the third one are left out, and the fourth one ends the copying. -/
def lostNotes : ScriptedDocument where
  path := .ofText "/notes.pdf"
  pages := [.ok "a", .ok "b", .ok "c", .ok "d", .ok "e"]
  copyFailures := [(2, .print "offline"), (3, .extraction .first "no font"), (4, .settings "lost")]

theorem copySelected_followsAnswers_lostNotes :
    let destination := Path.ofText "/copy.pdf"
    let selected := Selection.ofList (PageNumber.range 5)
    let s : Session Unit := { files := {}, outside := () }
    let copying := (lostNotes.toDocument.copySelected destination selected).run s
    copying.1 = .error (.settings "lost") ∧
      copying.2.calls = .create destination :: (PageNumber.range 4).map .copyPage ∧
      ∃ asked lines, copying.2.calls = s.calls ++ asked ∧
        copying.2.journal.report = s.journal.report ++ lines ∧
        CopyProtocol (lostNotes.toDocument.answers destination selected.pages s.host) destination
          selected asked lines copying.1 := by
  intro destination selected s copying
  have hresult : copying.1 = .error (.settings "lost") := by decide +kernel
  have hcalls : copying.2.calls = .create destination :: (PageNumber.range 4).map .copyPage := by
    decide +kernel
  generalize hrun : copying = outcome at hresult hcalls ⊢
  obtain ⟨result, s'⟩ := outcome
  refine ⟨hresult, hcalls, ?_⟩
  exact copySelected_followsAnswers lostNotes.toDocument destination selected s s' result hrun

end Document
end PageQuery
