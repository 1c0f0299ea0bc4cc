import PageQuery.Files.SystemError
import PageQuery.Page.Number
import PageQuery.Text.Utf8

/-!
What documents need of a library for PDF files. How the library reads a file, finds the text of a
page and writes a file is its own affair; what documents rely on is what it promises.
-/
namespace PageQuery

open Text (Bytes)

/-- A library for PDF files: its files in memory, and what can be asked of them. -/
structure PdfLibrary where
  File : Type
  PageId : Type
  /-- Makes a file of what reading it gave. -/
  load : Except SystemError Bytes → Except Text File
  isEncrypted : File → Bool
  /-- Unlocks a file with a password. -/
  decrypt : File → Text → Except Text File
  /-- The pages with their numbers. -/
  pages : File → List (PageNumber × PageId)
  text : File → PageNumber → Except Text Text
  /-- What the library itself logs while it finds the text of a page. -/
  textLog : File → PageNumber → List Text
  deletePages : File → List PageNumber → File
  /-- Drops the objects that are not used. -/
  prune : File → File
  compress : File → File
  /-- The bytes that saving writes, up to where it breaks off. -/
  bytes : File → Bytes
  /-- How saving ends, by how its bytes were taken. -/
  saved : File → Except SystemError Unit → Except Text Unit

namespace PdfLibrary

variable (lib : PdfLibrary)

def pageIds (f : lib.File) : List lib.PageId := (lib.pages f).map (·.2)

/-- Why a file is not saved when its bytes are refused, also if the library does not notice. -/
def causeOf (f : lib.File) (e : SystemError) : Text :=
  match lib.saved f (.error e) with
  | .error cause => cause
  | .ok () => e.message

/-- What a library promises. Pages are numbered from one on; the pages that are named are deleted
and the others stay in their order; what else is done to a file keeps its pages; and saving writes
something, and fails only if that cannot be written. -/
structure Lawful : Prop where
  numbered (f : lib.File) :
    (lib.pages f).map (·.1) = PageNumber.range (lib.pages f).length
  deleted (f : lib.File) (dropped : List PageNumber) :
    lib.pageIds (lib.deletePages f dropped) =
      ((lib.pages f).filter fun page => page.1 ∉ dropped).map (·.2)
  pruned (f : lib.File) : lib.pageIds (lib.prune f) = lib.pageIds f
  compressed (f : lib.File) : lib.pageIds (lib.compress f) = lib.pageIds f
  written (f : lib.File) : lib.bytes f ≠ []
  saves (f : lib.File) : lib.saved f (.ok ()) = .ok ()

end PdfLibrary
end PageQuery
