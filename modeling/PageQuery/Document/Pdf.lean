import PageQuery.Document.Basic
import PageQuery.Pdf.Library

/-!
Documents in PDF files. A new document is the old one without the pages that are not wanted.
-/
namespace PageQuery

structure PdfDocument (lib : PdfLibrary) where
  path : Path
  file : lib.File

namespace PdfDocument

variable {lib : PdfLibrary}

variable (lib) in
/-- Opens the file at a path. Files that are locked for their owner only open with no password. -/
def load (files : FileTree) (path : Path) : Except Failure (PdfDocument lib) :=
  if files.isFile path then
    match lib.load (files.read path) with
    | .error cause => .error (.cannotOpen path cause)
    | .ok file =>
      if lib.isEncrypted file then
        match lib.decrypt file [] with
        | .error cause => .error (.cannotOpen path ("encrypted document: " ++ cause))
        | .ok file => .ok { path, file }
      else .ok { path, file }
  else .error (.sourceNotFound path)

def numbers (d : PdfDocument lib) : List PageNumber := (lib.pages d.file).map (·.1)

def pageCount (d : PdfDocument lib) : Nat := (lib.pages d.file).length

def openedMessage (d : PdfDocument lib) : Text :=
  "opened " ++ d.path.render ++ " (" ++ Text.ofNat d.pageCount ++ " pages)"

variable (lib) in
def openAt {σ : Type} (path : Path) (h : Host σ) : Except Failure (PdfDocument lib) × Host σ :=
  match load lib h.files path with
  | .error failure => (.error failure, h)
  | .ok d => (.ok d, h.note .debug .pdf d.openedMessage)

def extractText (d : PdfDocument lib) (page : PageNumber) : Except Failure Text :=
  if page ∈ d.numbers then (lib.text d.file page).mapError (.extraction page)
  else .error (.extraction page "page does not exist")

def extractionLog (d : PdfDocument lib) (page : PageNumber) : List LogRecord :=
  if page ∈ d.numbers then (lib.textLog d.file page).map fun message => ⟨.debug, .decoding, message⟩
  else []

/-- What a writer has to remember: where it writes, and the pages that it keeps, in order. -/
structure Writer where
  path : Path
  kept : List PageNumber := []
deriving DecidableEq, Repr

def copyPage (d : PdfDocument lib) (page : PageNumber) (w : Writer) :
    Except Failure Unit × Writer :=
  if page ∈ d.numbers then (.ok (), { w with kept := page.insert w.kept })
  else (.error (.copy page ("source has only " ++ Text.ofNat d.pageCount ++ " pages")), w)

def droppedPages (d : PdfDocument lib) (w : Writer) : List PageNumber :=
  d.numbers.filter (· ∉ w.kept)

def keptFile (d : PdfDocument lib) (w : Writer) : lib.File :=
  lib.compress (lib.prune (lib.deletePages d.file (d.droppedPages w)))

def writtenMessage (w : Writer) : Text :=
  "wrote " ++ Text.ofNat w.kept.length ++ " pages to " ++ w.path.render

variable {σ : Type}

/-- Saves the file that a writer makes. Its bytes are buffered, so that writing them can fail once the
library is done. -/
def finish (d : PdfDocument lib) (w : Writer) (h : Host σ) : Except Failure Unit × Host σ :=
  match h.files.write w.path (lib.bytes (d.keptFile w)) with
  | .error e => (.error (.cannotWrite w.path (lib.causeOf (d.keptFile w) e)), h)
  | .ok files =>
    match lib.saved (d.keptFile w) (.ok ()) with
    | .error cause => (.error (.cannotWrite w.path cause), { h with files })
    | .ok () => (.ok (), ({ h with files } : Host σ).note .debug .pdf (writtenMessage w))

/-- The document as a run sees it. The file of a new document is made at once, and written when the
document is complete. -/
def toDocument (d : PdfDocument lib) : Document σ Writer where
  path := d.path
  pageCount := d.pageCount % Word.bound32
  extractText := d.extractText
  extractionLog := d.extractionLog
  create path h := match h.files.create path with
    | .error e => (.error (.cannotWrite path e.message), h)
    | .ok files => (.ok { path }, { h with files })
  copyPage page w h := (d.copyPage page w, h)
  finish := d.finish

end PdfDocument
end PageQuery
