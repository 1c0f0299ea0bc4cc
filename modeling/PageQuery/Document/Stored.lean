import PageQuery.Document.Basic
import PageQuery.Document.StoredPages

/-!
Documents whose pages are texts in a file. Pages can be marked so that they refuse to be copied.
-/
namespace PageQuery

structure StoredDocument where
  path : Path
  pages : List StoredPage
  /-- The pages that refuse to be copied. -/
  damaged : List PageNumber := []
deriving Repr

namespace StoredDocument

def ofTexts (path : Path) (texts : List Text) : StoredDocument :=
  { path, pages := texts.map .text }

def withUnreadable (d : StoredDocument) (page : PageNumber) (cause : Text) : StoredDocument :=
  { d with pages := d.pages.set page.offset (.unreadable cause) }

def withDamaged (d : StoredDocument) (page : PageNumber) : StoredDocument :=
  { d with damaged := page :: d.damaged }

def load (files : FileTree) (path : Path) : Except Failure StoredDocument :=
  if files.isFile path then
    match files.read path with
    | .error e => .error (.io e)
    | .ok bytes => match StoredPages.parse bytes with
      | .error problem => .error (.cannotOpen path problem.message)
      | .ok pages => .ok { path, pages }
  else .error (.sourceNotFound path)

def writePages (files : FileTree) (path : Path) (pages : List StoredPage) :
    Except Failure FileTree :=
  match files.write path (Text.encode (StoredPages.render pages)) with
  | .error e => .error (.cannotWrite path e.message)
  | .ok files => .ok files

def save (d : StoredDocument) (files : FileTree) : Except Failure FileTree :=
  writePages files d.path d.pages

def extractText (d : StoredDocument) (page : PageNumber) : Except Failure Text :=
  match d.pages[page.offset]? with
  | some (.text t) => .ok t
  | some (.unreadable cause) => .error (.extraction page cause)
  | none => .error (.extraction page "page does not exist")

structure Writer where
  path : Path
  kept : List PageNumber := []
deriving DecidableEq, Repr

def copyPage (d : StoredDocument) (page : PageNumber) (w : Writer) :
    Except Failure Unit × Writer :=
  if page ∈ d.damaged then (.error (.copy page "page object is damaged"), w)
  else if d.pages.length ≤ page.offset then
    (.error (.copy page ("source has only " ++ Text.ofNat d.pages.length ++ " pages")), w)
  else (.ok (), { w with kept := page.insert w.kept })

def keptPages (d : StoredDocument) (w : Writer) : List StoredPage :=
  w.kept.filterMap fun page => d.pages[page.offset]?

variable {σ : Type}

/-- The document as a run sees it. The file of a new document is made at once, and written when the
document is complete. -/
def toDocument (d : StoredDocument) : Document σ Writer where
  path := d.path
  pageCount := d.pages.length % Word.bound32
  extractText := d.extractText
  create path h := match h.files.create path with
    | .error e => (.error (.cannotWrite path e.message), h)
    | .ok files => (.ok { path }, { h with files })
  copyPage page w h := (d.copyPage page w, h)
  finish w h := match writePages h.files w.path (d.keptPages w) with
    | .error failure => (.error failure, h)
    | .ok files => (.ok (), { h with files })

end StoredDocument
end PageQuery
