import PageQuery.Text.Utf8

/-!
Paths as bytes, and their parts. A path is cut at its slashes; segments that name nothing (empty
ones, and single dots behind another segment) do not count as components.
-/
namespace PageQuery

open Text (Bytes)

/-- A path, as the bytes by which the system knows it. -/
structure Path where
  bytes : Bytes
deriving DecidableEq, Repr

namespace Path

def slash : UInt8 := 0x2F

def dot : UInt8 := 0x2E

def current : Bytes := [dot]

def above : Bytes := [dot, dot]

def ofText (t : Text) : Path := ⟨Text.encode t⟩

def render (p : Path) : Text := Text.decodeLossy p.bytes

def isAbsolute (p : Path) : Bool := p.bytes.head? = some slash

/-- What stands between the slashes, the one of the root aside. -/
def segments (p : Path) : List Bytes :=
  let cut := pieces slash p.bytes
  if p.isAbsolute then cut.tail else cut

/-- Drops segments that name nothing; the segments are read from the last one on. A dot in front of
a relative path does name something. -/
def dropNameless (absolute : Bool) : List Bytes → List Bytes
  | [] => []
  | [only] => if only = [] ∨ (absolute ∧ only = current) then [] else [only]
  | last :: more =>
    if last = [] ∨ last = current then dropNameless absolute more else last :: more

/-- The segments up to the last one that names something, the last one first. -/
def backwards (p : Path) : List Bytes := dropNameless p.isAbsolute p.segments.reverse

def fileName? (p : Path) : Option Bytes :=
  match p.backwards with
  | last :: _ => if last = current ∨ last = above then none else some last
  | [] => none

/-- The path without its last component. The root and the empty path have none to lose. -/
def parent? (p : Path) : Option Path :=
  match p.backwards with
  | [] => none
  | _ :: more =>
    let kept := [slash].intercalate (dropNameless p.isAbsolute more).reverse
    some ⟨if p.isAbsolute then slash :: kept else kept⟩

/-- A file name before and after its last dot. A dot in front does not count. -/
def splitName (name : Bytes) : Bytes × Option Bytes :=
  match cutAtLast? dot name with
  | some (stem, extension) => if stem = [] then (name, none) else (stem, some extension)
  | none => (name, none)

def fileStem? (p : Path) : Option Bytes := p.fileName?.map fun name => (splitName name).1

def extension? (p : Path) : Option Bytes := p.fileName?.bind fun name => (splitName name).2

/-- A path below a directory. An absolute path stays as it is. -/
def join (directory p : Path) : Path :=
  if p.isAbsolute then p
  else if directory.bytes = [] ∨ directory.bytes.getLast? = some slash then
    ⟨directory.bytes ++ p.bytes⟩
  else ⟨directory.bytes ++ slash :: p.bytes⟩

end Path
end PageQuery
