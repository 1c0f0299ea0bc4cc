import PageQuery.Text.Basic

/-!
What a run says: report lines for the user, and log records for whoever looks after the program. One
journal holds both in the order in which they arise.
-/
namespace PageQuery

inductive ReportLevel where
  | info
  | warning
  | error
deriving DecidableEq, Repr

structure ReportLine where
  level : ReportLevel
  message : Text
deriving DecidableEq, Repr

abbrev Report := List ReportLine

namespace Report

def messages (r : Report) (level : ReportLevel) : List Text :=
  (r.filter (·.level = level)).map (·.message)

def mentions (r : Report) (needle : Text) : Bool := r.any fun line => occursIn needle line.message

end Report

inductive LogLevel where
  | error
  | warn
  | info
  | debug
  | trace
deriving DecidableEq, Repr

/-- The rank of a level: details have high ranks. -/
def LogLevel.rank : LogLevel → Nat
  | error => 1
  | warn => 2
  | info => 3
  | debug => 4
  | trace => 5

inductive Topic where
  | program
  | run
  | scan
  | action
  | copying
  | printing
  | system
  | pdf
  /-- The reading of strings in PDF files. -/
  | decoding
deriving DecidableEq, Repr

/-- The name by which log filters select a topic. -/
def Topic.path : Topic → Text
  | program => "pagesift"
  | run => "pagesift::run"
  | scan => "pagesift::scan"
  | action => "pagesift::action"
  | copying => "pagesift::action::export"
  | printing => "pagesift::action::print"
  | system => "pagesift::platform::adapters::system"
  | pdf => "pagesift::document::pdf"
  | decoding => "lopdf::document"

structure LogRecord where
  level : LogLevel
  topic : Topic
  text : Text
deriving DecidableEq, Repr

structure LogChoice where
  shows : LogRecord → Bool
  warnings : List Text

inductive JournalEntry where
  | line (line : ReportLine)
  | record (record : LogRecord)
deriving DecidableEq, Repr

abbrev Journal := List JournalEntry

namespace Journal

def report (j : Journal) : Report := j.filterMap fun
  | .line line => some line
  | .record _ => none

def log (j : Journal) : List LogRecord := j.filterMap fun
  | .line _ => none
  | .record record => some record

end Journal
end PageQuery
