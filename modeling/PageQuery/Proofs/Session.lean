import PageQuery.Proofs.Files.Changes
import PageQuery.Session

/-!
Runs on a session: what each operation returns, and the session that it leaves.
-/
namespace PageQuery

namespace Journal

@[simp] theorem report_append (j k : Journal) : (j ++ k).report = j.report ++ k.report :=
  List.filterMap_append

@[simp] theorem report_nil : Journal.report [] = [] := rfl

@[simp] theorem report_line_cons (line : ReportLine) (j : Journal) :
    Journal.report (.line line :: j) = line :: j.report := rfl

@[simp] theorem report_record_cons (record : LogRecord) (j : Journal) :
    Journal.report (.record record :: j) = j.report := rfl

@[simp] theorem report_map_record (records : List LogRecord) :
    Journal.report (records.map .record) = [] := by
  induction records with
  | nil => rfl
  | cons record rest ih => rw [List.map_cons, report_record_cons, ih]

theorem report_flatMap {α : Type} (f : α → Journal) (items : List α) :
    Journal.report (items.flatMap f) = items.flatMap fun a => (f a).report := by
  induction items with
  | nil => rfl
  | cons a rest ih => rw [List.flatMap_cons, report_append, ih, List.flatMap_cons]

end Journal

namespace Session

variable {σ α β : Type}

/-- The session with more entries in its journal. -/
def withEntries (s : Session σ) (entries : Journal) : Session σ :=
  { s with journal := s.journal ++ entries }

@[simp] theorem withEntries_files (s : Session σ) (entries : Journal) :
    (s.withEntries entries).files = s.files := rfl

@[simp] theorem withEntries_outside (s : Session σ) (entries : Journal) :
    (s.withEntries entries).outside = s.outside := rfl

@[simp] theorem withEntries_journal (s : Session σ) (entries : Journal) :
    (s.withEntries entries).journal = s.journal ++ entries := rfl

@[simp] theorem withEntries_nil (s : Session σ) : s.withEntries [] = s := by
  simp [withEntries]

@[simp] theorem withEntries_withEntries (s : Session σ) (entries more : Journal) :
    (s.withEntries entries).withEntries more = s.withEntries (entries ++ more) := by
  simp [withEntries]

theorem run_bind (x : StateM (Session σ) α) (f : α → StateM (Session σ) β) (s : Session σ) :
    (x >>= f).run s = (f (x.run s).1).run (x.run s).2 := rfl

@[simp] theorem run_pure (a : α) (s : Session σ) :
    (pure a : StateM (Session σ) α).run s = (a, s) := rfl

@[simp] theorem run_get (s : Session σ) :
    (get : StateM (Session σ) (Session σ)).run s = (s, s) := rfl

@[simp] theorem run_report (level : ReportLevel) (message : Text) (s : Session σ) :
    (report level message).run s = ((), s.withEntries [.line ⟨level, message⟩]) := rfl

@[simp] theorem run_note (level : LogLevel) (topic : Topic) (text : Text) (s : Session σ) :
    (note level topic text).run s = ((), s.withEntries [.record ⟨level, topic, text⟩]) := rfl

@[simp] theorem run_record (records : List LogRecord) (s : Session σ) :
    (record records).run s = ((), s.withEntries (records.map .record)) := rfl

/-- What a document or a printer sees of a session. -/
def host (s : Session σ) : Host σ := { files := s.files, outside := s.outside }

/-- The session after a document or a printer has worked: only the log is added to the journal. -/
def resume (s : Session σ) (h : Host σ) : Session σ :=
  { s with
    files := h.files
    outside := h.outside
    journal := s.journal ++ h.log.map .record }

/-- The session that remembers one more call. -/
def marked (s : Session σ) (call : Call) : Session σ := { s with calls := s.calls ++ [call] }

@[simp] theorem host_files (s : Session σ) : s.host.files = s.files := rfl

@[simp] theorem host_withEntries (s : Session σ) (entries : Journal) :
    (s.withEntries entries).host = s.host := rfl

@[simp] theorem host_marked (s : Session σ) (call : Call) : (s.marked call).host = s.host := rfl

@[simp] theorem withEntries_calls (s : Session σ) (entries : Journal) :
    (s.withEntries entries).calls = s.calls := rfl

@[simp] theorem resume_host (s : Session σ) : s.resume s.host = s := by
  simp [resume, host]

@[simp] theorem resume_files (s : Session σ) (h : Host σ) : (s.resume h).files = h.files := rfl

@[simp] theorem resume_calls (s : Session σ) (h : Host σ) : (s.resume h).calls = s.calls := rfl

@[simp] theorem report_resume (s : Session σ) (h : Host σ) :
    (s.resume h).journal.report = s.journal.report := by
  simp [resume]

@[simp] theorem marked_files (s : Session σ) (call : Call) : (s.marked call).files = s.files := rfl

@[simp] theorem marked_journal (s : Session σ) (call : Call) :
    (s.marked call).journal = s.journal := rfl

@[simp] theorem marked_calls (s : Session σ) (call : Call) :
    (s.marked call).calls = s.calls ++ [call] := rfl

@[simp] theorem run_mark (call : Call) (s : Session σ) :
    (mark call).run s = ((), s.marked call) := rfl

@[simp] theorem run_act (work : Host σ → α × Host σ) (s : Session σ) :
    (act work).run s = ((work s.host).1, s.resume (work s.host).2) := rfl

@[simp] theorem run_ask (call : Call) (work : Host σ → α × Host σ) (s : Session σ) :
    (ask call work).run s = ((work s.host).1, (s.marked call).resume (work s.host).2) := rfl

theorem calls_of_ask {call : Call} {work : Host σ → α × Host σ} {s s' : Session σ} {result : α}
    (h : (ask call work).run s = (result, s')) : s'.calls = s.calls ++ [call] := by
  rw [run_ask] at h
  obtain ⟨-, rfl⟩ := Prod.mk.inj h
  rfl

/-- Documents and printers do not report. -/
theorem report_of_ask {call : Call} {work : Host σ → α × Host σ} {s s' : Session σ} {result : α}
    (h : (ask call work).run s = (result, s')) : s'.journal.report = s.journal.report := by
  rw [run_ask] at h
  obtain ⟨-, rfl⟩ := Prod.mk.inj h
  simp

theorem files_of_ask {call : Call} {work : Host σ → α × Host σ} {s s' : Session σ} {result : α}
    (h : (ask call work).run s = (result, s')) : s'.files = (work s.host).2.files := by
  rw [run_ask] at h
  obtain ⟨-, rfl⟩ := Prod.mk.inj h
  rfl

theorem outside_of_ask {call : Call} {work : Host σ → α × Host σ} {s s' : Session σ} {result : α}
    (h : (ask call work).run s = (result, s')) : s'.outside = (work s.host).2.outside := by
  rw [run_ask] at h
  obtain ⟨-, rfl⟩ := Prod.mk.inj h
  rfl

theorem result_of_ask {call : Call} {work : Host σ → α × Host σ} {s s' : Session σ} {result : α}
    (h : (ask call work).run s = (result, s')) : (work s.host).1 = result := by
  rw [run_ask] at h
  exact (Prod.mk.inj h).1

theorem host_of_ask {call : Call} {work : Host σ → α × Host σ} {s s' : Session σ} {result : α}
    (h : (ask call work).run s = (result, s')) :
    ∃ h', work s.host = (result, h') ∧ s'.host = { h' with log := [] } := by
  rw [run_ask] at h
  obtain ⟨rfl, rfl⟩ := Prod.mk.inj h
  exact ⟨_, rfl, rfl⟩

/-- Work that leaves everything as it is. -/
theorem run_ask_of_idle {work : Host σ → α × Host σ} {result : α}
    (h : ∀ host, work host = (result, host)) (call : Call) (s : Session σ) :
    (ask call work).run s = (result, s.marked call) := by
  rw [run_ask, h, ← host_marked s call, resume_host]

/-- The session after an attempt to remove the file at a path. -/
def afterRemoval (s : Session σ) (path : Path) : Session σ :=
  { s.marked (.remove path) with files := s.files.afterRemoval path }

@[simp] theorem afterRemoval_files (s : Session σ) (path : Path) :
    (s.afterRemoval path).files = s.files.afterRemoval path := rfl

@[simp] theorem afterRemoval_journal (s : Session σ) (path : Path) :
    (s.afterRemoval path).journal = s.journal := rfl

@[simp] theorem afterRemoval_calls (s : Session σ) (path : Path) :
    (s.afterRemoval path).calls = s.calls ++ [.remove path] := rfl

theorem run_removeIfThere (path : Path) (s : Session σ) :
    (removeIfThere path).run s =
      ((s.files.removeIfThere path).map Prod.fst, s.afterRemoval path) := by
  simp only [removeIfThere, run_bind, run_mark, run_get, marked_files, afterRemoval,
    FileTree.afterRemoval]
  cases s.files.removeIfThere path <;> rfl

end Session
end PageQuery
