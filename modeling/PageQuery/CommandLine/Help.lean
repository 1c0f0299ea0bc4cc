import PageQuery.CommandLine.Environment
import PageQuery.Text.Style

/-!
The texts about the program itself. The help shows which variables of the environment stand for
arguments, and what they hold.
-/
namespace PageQuery.CommandLine

def descriptionIndent : Text := List.replicate 10 ' '

/-- What a variable of the environment holds, as the help shows it; further lines are indented. -/
def variableNote (e : Environment) (name : String) : Text :=
  let value := Text.decodeLossy ((e.value? name).getD [])
  " [env: " ++ name ++ "="
    ++ Text.joined ('\n' :: descriptionIndent) (pieces '\n' value) ++ "]"

structure OptionHelp where
  /-- The letter that stands for the name, if there is one. -/
  letter : Option String := none
  name : String
  /-- The value that follows the name. -/
  value : String := ""
  description : String
  /-- The variable of the environment that may give the value. -/
  variableName : Option String := none
deriving DecidableEq, Repr

def options : List OptionHelp := [
  { name := "--force-print-without-default-printer"
    description := "Print even when no default printer is detected"
    variableName := some "PAGESIFT_FORCE_PRINT" },
  { name := "--print-grace-ms", value := " <MS>"
    description := "Milliseconds to wait before deleting the temporary print file"
    variableName := some "PAGESIFT_PRINT_GRACE_MS" },
  { name := "--print-wait-ms", value := " <MS>"
    description := "Milliseconds to wait for the print command to exit"
    variableName := some "PAGESIFT_PRINT_WAIT_MS" },
  { name := "--output-dir", value := " <DIR>"
    description := "Directory for exported documents (defaults to the document's directory)"
    variableName := some "PAGESIFT_OUTPUT_DIR" },
  { name := "--config", value := " <FILE>"
    description := "JSON settings file; flags override its values" },
  { letter := some "-q", name := "--quiet", description := "Only print warnings and errors" },
  { letter := some "-h", name := "--help", description := "Print help" },
  { letter := some "-V", name := "--version", description := "Print version" }]

def optionLines (e : Environment) (o : OptionHelp) : List Text :=
  let letter : Text := match o.letter with
    | some letter => Text.Style.bold.paint letter ++ ", "
    | none => "    "
  let note := match o.variableName with
    | some name => variableNote e name
    | none => []
  ["  " ++ letter ++ Text.Style.bold.paint o.name ++ o.value.toList,
    descriptionIndent ++ o.description ++ note]

def introduction : List Text := [
  "Find PDF pages matching an AND/OR keyword query",
  "",
  Text.Style.heading.paint "Usage:" ++ ' ' :: Text.Style.bold.paint "pagesift"
    ++ " [OPTIONS] <DOCUMENT> <QUERY> <ACTION>",
  "",
  Text.Style.heading.paint "Arguments:",
  "  <DOCUMENT>  PDF document to search",
  "  <QUERY>     Keyword query, e.g. \"budget & 2024\" or \"export | import\"",
  "  <ACTION>    What to do with the matched pages: list, export or print",
  "",
  Text.Style.heading.paint "Options:"]

def advice : List String := [
  "",
  "Query operators:",
  "  &   all terms must appear on the page",
  "  |   any term may appear on the page",
  "  `|` binds looser than `&`; matching ignores case.",
  "",
  "Put `--` before the query when it looks like a flag:",
  "  pagesift notes.pdf -- -q list",
  "",
  "Examples:",
  "  pagesift report.pdf \"budget & 2024\" list",
  "  pagesift manual.pdf \"export | import\" export",
  "  pagesift invoice.pdf \"total\" print"]

def help (e : Environment) : Text :=
  let lines := introduction ++ options.flatMap (optionLines e) ++ advice.map String.toList
  lines.flatMap fun line => line ++ ['\n']

def version : Text := "pagesift 0.1.0\n"

end PageQuery.CommandLine
