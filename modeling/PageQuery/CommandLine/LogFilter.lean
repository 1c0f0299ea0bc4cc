import PageQuery.Journal
import PageQuery.Pattern.Basic
import PageQuery.Text.Blank

/-!
Filters that choose the log records that are shown. A filter is a list of directives; for each topic
the one with the longest fitting name counts.
-/
namespace PageQuery

/-- Shows the records of topics that start with a name up to a level; without a level, none. -/
structure LogDirective where
  /-- No name fits every topic. -/
  name : Option Text
  level : Option LogLevel
deriving DecidableEq, Repr

structure LogFilter where
  directives : List LogDirective
  /-- A pattern that has to occur in the texts of shown records. -/
  pattern : Option Pattern.Matcher := none
deriving DecidableEq, Repr

namespace LogFilter

/-- The level that a word names, if it names one; `off` is no level. -/
def level? (word : Text) : Option (Option LogLevel) :=
  let word := String.ofList (word.map Char.toLower)
  if word = "off" then some none
  else if word = "error" then some (some .error)
  else if word = "warn" then some (some .warn)
  else if word = "info" then some (some .info)
  else if word = "debug" then some (some .debug)
  else if word = "trace" then some (some .trace)
  else none

def warning (why : Text) : Text := "warning: " ++ why ++ ", ignoring it"

def misunderstood (what : Text) : Text := "invalid logging spec '" ++ what ++ "'"

def readDirective (t : Text) : Except Text LogDirective :=
  match pieces '=' t with
  | [name] => match level? name with
    | some level => .ok ⟨none, level⟩
    | none => .ok ⟨some name, some .trace⟩
  | [name, word] =>
    let word := Text.trim word
    if word = [] then .ok ⟨some name, some .trace⟩
    else match level? word with
      | some level => .ok ⟨some name, level⟩
      | none => .error word
  | _ => .error t

def put (d : LogDirective) (directives : List LogDirective) : List LogDirective :=
  if directives.any (·.name = d.name) then
    directives.map fun e => if e.name = d.name then d else e
  else directives ++ [d]

def readDirectives : List Text → List LogDirective × List Text
  | [] => ([], [])
  | part :: more =>
    let (found, warnings) := readDirectives more
    if part = [] then (found, warnings)
    else match readDirective part with
      | .ok d => (d :: found, warnings)
      | .error what => (found, warning (misunderstood what) :: warnings)

/-- The filter without directives shows errors. -/
def fallback : List LogDirective := [⟨none, some .error⟩]

def readPattern : List Text → Option Pattern.Matcher × List Text
  | [] => (none, [])
  | pattern :: _ => match Pattern.compile pattern with
    | .ok m => (some m, [])
    | .error refusal => (none, [warning ("invalid regex filter - " ++ refusal.message pattern)])

def parse (t : Text) : LogFilter × List Text :=
  match pieces '/' t with
  | names :: rest =>
    if 1 < rest.length then
      ({ directives := fallback }, [warning (misunderstood t ++ " (too many '/'s)")])
    else
      let (found, warnings) := readDirectives ((pieces ',' names).map Text.trim)
      let (pattern, more) := readPattern rest
      let found := found.foldl (fun kept d => put d kept) []
      ({ directives := if found = [] then fallback else found, pattern }, warnings ++ more)
  | [] => ({ directives := fallback }, [])

/-- The filter where none is asked for. -/
def standard : LogFilter := { directives := [⟨none, some .warn⟩] }

def LogDirective.reach (d : LogDirective) : Nat := (d.name.getD []).length

def LogDirective.fits (d : LogDirective) (topic : Topic) : Bool :=
  (d.name.getD []).isPrefixOf topic.path

/-- The directive for a topic: of those that fit, the one with the longest name. -/
def directiveFor? (f : LogFilter) (topic : Topic) : Option LogDirective :=
  (f.directives.filter (LogDirective.fits · topic)).foldl (fun best d =>
    match best with
    | some b => if LogDirective.reach b ≤ LogDirective.reach d then some d else some b
    | none => some d) none

def shows (f : LogFilter) (r : LogRecord) : Bool :=
  match (f.directiveFor? r.topic).bind (·.level) with
  | some level => r.level.rank ≤ level.rank && f.pattern.all (·.occursIn r.text)
  | none => false

def choose : Option Text → LogChoice
  | some text => let (filter, warnings) := parse text; ⟨filter.shows, warnings⟩
  | none => ⟨standard.shows, []⟩

end LogFilter

end PageQuery
