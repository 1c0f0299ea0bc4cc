import PageQuery.Files.Tree
import PageQuery.Word

/-!
Names of new files. An export is named for its source, the query and the time, with a number if that
name is taken; a temporary file is named by a token.
-/
namespace PageQuery

/-- A moment of local time. A nanosecond from `10 ^ 9` on lies in a leap second. -/
structure Timestamp where
  year : Int
  month : Nat
  day : Nat
  hour : Nat
  minute : Nat
  second : Nat
  nanosecond : Nat := 0
deriving DecidableEq, Repr

/-- A year: four digits or more, with a sign unless there are four and the year is not negative. -/
def Timestamp.renderYear (year : Int) : Text :=
  if 0 ≤ year ∧ year ≤ 9999 then Text.ofNatPadded 4 year.toNat
  else (if year < 0 then '-' else '+') :: Text.ofNatPadded 4 year.natAbs

def Timestamp.render (t : Timestamp) : Text :=
  let two := Text.ofNatPadded 2
  let second := t.second + t.nanosecond / 1000000000
  renderYear t.year ++ two t.month ++ two t.day ++ '_' :: two t.hour ++ two t.minute ++ two second

namespace Naming

def unsafeChars : Text := ['\\', '/', ':', '*', '?', '"', '<', '>', '|', '&']

def placeholder : Char := '_'

def sanitize (query : Text) : Text :=
  query.map fun c => if c ∈ unsafeChars then placeholder else c

def exportStem (base query : Text) (time : Timestamp) : Text :=
  base ++ '_' :: sanitize query ++ '_' :: time.render

def exportName (base query : Text) (time : Timestamp) (extension : Text) : Text :=
  exportStem base query time ++ '.' :: extension

def numberedName (stem : Text) (number : Nat) (extension : Text) : Text :=
  stem ++ '_' :: Text.ofNat number ++ '.' :: extension

def defaultBase : Text := "document"

def baseOf (source : Path) : Text :=
  match source.fileStem? with
  | some stem => Text.decodeLossy stem
  | none => defaultBase

def directoryOf (source : Path) : Path :=
  match source.parent? with
  | some parent => if parent.bytes = [] then ⟨Path.current⟩ else parent
  | none => ⟨Path.current⟩

/-- The least number that is free, of so many numbers from the first one on. -/
def leastFree? (free : Nat → Bool) : Nat → Nat → Option Nat
  | 0, _ => none
  | count + 1, first => if free first then some first else leastFree? free count (first + 1)

/-- How many numbers an export can have: those of 32 bits, zero and the greatest one aside. -/
def numberCount : Nat := Word.bound32 - 2

/-- The path for an export: the plain name if it is free, or else the name with the least number
that is. The number goes in front of the extension. -/
def exportPath (files : FileTree) (source : Path) (directory : Option Path) (query : Text)
    (time : Timestamp) (extension : Text) : Path :=
  let directory := directory.getD (directoryOf source)
  let name := exportName (baseOf source) query time extension
  let plain := directory.join (.ofText name)
  if files.pathExists plain then
    let stem := (stripEnd? ('.' :: extension) name).getD name
    let numbered := fun n => directory.join (.ofText (numberedName stem n extension))
    match leastFree? (fun n => !files.pathExists (numbered n)) numberCount 1 with
    | some n => numbered n
    | none => plain
  else plain

def temporaryPath (directory : Path) (token extension : Text) : Path :=
  directory.join (.ofText ("pagesift_" ++ token ++ '.' :: extension))

end Naming
end PageQuery
