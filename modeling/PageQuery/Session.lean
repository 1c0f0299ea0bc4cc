import PageQuery.Files.Tree
import PageQuery.Journal
import PageQuery.Page.Number

/-!
The state that a run works on. Documents and printers see the files, what lies outside them, and a
log; only the program itself writes to the report. A session remembers what was asked of documents,
printers and the file system, so that this can be spoken of; no decision rests on it.
-/
namespace PageQuery

/-- What documents and printers work on. What lies outside the files is left open. -/
structure Host (σ : Type) where
  files : FileTree
  outside : σ
  log : List LogRecord := []
deriving Repr

def Host.note {σ : Type} (h : Host σ) (level : LogLevel) (topic : Topic) (text : Text) : Host σ :=
  { h with log := h.log ++ [⟨level, topic, text⟩] }

inductive Call where
  /-- Start a new document at a path. -/
  | create (destination : Path)
  | copyPage (page : PageNumber)
  /-- Complete the new document. -/
  | finish
  | probe
  | printFile (path : Path)
  /-- Remove the file at a path, if it is there. -/
  | remove (path : Path)
deriving DecidableEq, Repr

structure Session (σ : Type) where
  files : FileTree
  outside : σ
  journal : Journal := []
  /-- The calls so far, in order. -/
  calls : List Call := []
deriving Repr

namespace Session

variable {σ α : Type}

def enter (entry : JournalEntry) : StateM (Session σ) Unit :=
  modify fun s => { s with journal := s.journal ++ [entry] }

def report (level : ReportLevel) (message : Text) : StateM (Session σ) Unit :=
  enter (.line ⟨level, message⟩)

def note (level : LogLevel) (topic : Topic) (text : Text) : StateM (Session σ) Unit :=
  enter (.record ⟨level, topic, text⟩)

def record (records : List LogRecord) : StateM (Session σ) Unit :=
  modify fun s => { s with journal := s.journal ++ records.map JournalEntry.record }

/-- Lets a document or a printer work; its log records go to the journal. -/
def act (work : Host σ → α × Host σ) : StateM (Session σ) α := do
  let s ← get
  let (result, h) := work { files := s.files, outside := s.outside }
  set { s with
    files := h.files
    outside := h.outside
    journal := s.journal ++ h.log.map JournalEntry.record }
  pure result

def mark (call : Call) : StateM (Session σ) Unit :=
  modify fun s => { s with calls := s.calls ++ [call] }

def ask (call : Call) (work : Host σ → α × Host σ) : StateM (Session σ) α := do
  mark call
  act work

/-- Removes a file if it is there; tells whether it was. -/
def removeIfThere (path : Path) : StateM (Session σ) (Except SystemError Bool) := do
  mark (.remove path)
  let s ← get
  match s.files.removeIfThere path with
  | .ok (removed, files) =>
    set { s with files }
    pure (.ok removed)
  | .error e => pure (.error e)

end Session
end PageQuery
