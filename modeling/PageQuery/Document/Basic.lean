import PageQuery.Failure
import PageQuery.Session

/-!
What a run asks of a document: its path, its pages and their texts, and a writer that copies some of
the pages into a new document.
-/
namespace PageQuery

/-- A document whose writers have states of type `ω`. -/
structure Document (σ ω : Type) where
  path : Path
  pageCount : Nat
  extractText : PageNumber → Except Failure Text
  /-- What the log says while the text of a page is read. -/
  extractionLog : PageNumber → List LogRecord := fun _ => []
  /-- Starts a new document at a path. -/
  create : Path → Host σ → Except Failure ω × Host σ
  /-- Copies a page; the writer goes on after a failure. -/
  copyPage : PageNumber → ω → Host σ → (Except Failure Unit × ω) × Host σ
  /-- Completes the new document. -/
  finish : ω → Host σ → Except Failure Unit × Host σ

namespace Document

def defaultExtension : Text := "pdf"

def extensionOf (path : Path) : Text :=
  ((path.extension?).bind Text.decode?).getD defaultExtension

variable {σ ω : Type}

def extension (d : Document σ ω) : Text := extensionOf d.path

end Document
end PageQuery
