import PageQuery.Document.Basic

/-!
Documents that follow a script: for each call the script tells whether it fails. They stand in for
documents with faults of any kind at any moment.
-/
namespace PageQuery

inductive Created where
  | file
  | nothing
  /-- A directory with a file in it. -/
  | directory
deriving DecidableEq, Repr

structure ScriptedDocument where
  path : Path
  pages : List (Except Failure Text)
  createFailure : Option Failure := none
  creates : Created := .file
  copyFailures : List (Nat × Failure) := []
  finishFailure : Option Failure := none

namespace ScriptedDocument

structure Writer where
  path : Path
  copied : List PageNumber := []
deriving DecidableEq, Repr

def Created.apply (c : Created) (path : Path) (files : FileTree) : Except SystemError FileTree :=
  match c with
  | .file => files.write path (Text.encode "partial")
  | .nothing => .ok files
  | .directory => do
    let files ← files.makeDirectory path
    files.write (path.join (.ofText "inner")) (Text.encode "x")

variable {σ : Type}

/-- The document as a run sees it. A complete new document holds the numbers of its pages, if its
file was made. -/
def toDocument (d : ScriptedDocument) : Document σ Writer where
  path := d.path
  pageCount := d.pages.length % Word.bound32
  extractText page := match d.pages[page.offset]? with
    | some result => result
    | none => .error (.extraction page "page does not exist")
  create path h := match d.createFailure with
    | some failure => (.error failure, h)
    | none => match Created.apply d.creates path h.files with
      | .ok files => (.ok { path }, { h with files })
      | .error e => (.error (.cannotWrite path e.message), h)
  copyPage page w h := match d.copyFailures.lookup page.value with
    | some failure => ((.error failure, w), h)
    | none => ((.ok (), { w with copied := w.copied ++ [page] }), h)
  finish w h := match d.finishFailure with
    | some failure => (.error failure, h)
    | none =>
      if h.files.isFile w.path then
        let content := Text.joined "," (w.copied.map PageNumber.render)
        match h.files.write w.path (Text.encode content) with
        | .ok files => (.ok (), { h with files })
        | .error e => (.error (.cannotWrite w.path e.message), h)
      else (.ok (), h)

end ScriptedDocument
end PageQuery
