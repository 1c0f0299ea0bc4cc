import PageQuery.Failure
import PageQuery.Page.Selection
import PageQuery.Text.Blank

/-!
What can be done with the selected pages, the words for it, and what comes of it.
-/
namespace PageQuery

inductive Action where
  /-- Name the pages. -/
  | list
  /-- Copy the pages into a new document. -/
  | save
  /-- Print the pages. -/
  | print
deriving DecidableEq, Repr

namespace Action

def name : Action → Text
  | list => "list"
  | save => "export"
  | print => "print"

def keywords : List (String × Action) := [
  ("list", list), ("pages", list), ("page", list), ("-page", list),
  ("export", save), ("save", save), ("-save", save),
  ("print", print), ("-print", print)]

def unknown (raw : Text) : Text :=
  "unknown action '" ++ raw ++ "' (supported: list, export, print)"

/-- The action that a word names; white space around it and the case of ASCII letters do not
matter. -/
def ofKeyword (raw : Text) : Except Failure Action :=
  let word := (Text.trim raw).map Char.toLower
  match keywords.find? fun (keyword, _) => keyword.toList = word with
  | some (_, action) => .ok action
  | none => .error (.usage (unknown raw))

end Action

structure CopyReport where
  copied : List PageNumber := []
  skipped : List PageNumber := []
deriving DecidableEq, Repr

inductive Outcome where
  | listed (selected : Selection)
  | exported (path : Path) (copy : CopyReport)
  | printed (accepted : Bool) (copy : CopyReport)
  | printCancelled
deriving DecidableEq, Repr

end PageQuery
