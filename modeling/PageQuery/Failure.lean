import PageQuery.Files.Path
import PageQuery.Files.SystemError
import PageQuery.Page.Number

/-!
What can go wrong, by cause, and the message for each cause. Failures that concern one page or one
print request are recoverable: the work on the other pages goes on.
-/
namespace PageQuery

inductive Failure where
  | io (error : SystemError)
  | usage (message : Text)
  | sourceNotFound (path : Path)
  | cannotOpen (path : Path) (cause : Text)
  | extraction (page : PageNumber) (cause : Text)
  | copy (page : PageNumber) (cause : Text)
  | cannotWrite (path : Path) (cause : Text)
  | print (message : Text)
  | settings (message : Text)
deriving DecidableEq, Repr

namespace Failure

def message : Failure → Text
  | io error => "IO error: " ++ error.message
  | usage message => "Usage error: " ++ message
  | sourceNotFound path => "File not found: " ++ path.render
  | cannotOpen path cause => "Cannot open document " ++ path.render ++ ": " ++ cause
  | extraction page cause => "Text extraction failed on page " ++ page.render ++ ": " ++ cause
  | copy page cause => "Copying page " ++ page.render ++ " failed: " ++ cause
  | cannotWrite path cause => "Cannot write document " ++ path.render ++ ": " ++ cause
  | print message => "Print error: " ++ message
  | settings message => "Config error: " ++ message

/-- Whether the work may go on without the page or the request that failed. -/
def isRecoverable : Failure → Bool
  | extraction .. | copy .. | print _ => true
  | _ => false

def extractionCause : Failure → Text
  | extraction _ cause => cause
  | other => other.message

def copyCause : Failure → Text
  | copy _ cause => cause
  | other => other.message

end Failure
end PageQuery
