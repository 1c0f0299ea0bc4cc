import PageQuery.Files.Path
import PageQuery.Files.SystemError

/-!
A file system without links: a finite tree of directories and files, and the operations on it, each
with the error by which the system refuses it. Paths are read from a current directory.
-/
namespace PageQuery

open Text (Bytes)

inductive FileNode where
  | file (content : Bytes)
  | directory
  /-- A device that takes no byte. -/
  | fullDevice
deriving DecidableEq, Repr

/-- The names from the root to a place. -/
abbrev TreeKey := List Bytes

/-- A tree: what stands at which place, and the current directory. The root is a directory. -/
structure FileTree where
  entries : List (TreeKey × FileNode) := []
  here : TreeKey := []
deriving Repr

/-- What a path means before its last name is looked up. -/
inductive TreePlace where
  /-- A directory that exists: the path ends in no name. -/
  | directory (key : TreeKey)
  /-- A name in a directory that exists, with or without a slash behind it. -/
  | name (parent : TreeKey) (name : Bytes) (trailingSlash : Bool)
deriving DecidableEq, Repr

namespace FileTree

def maxName : Nat := 255

def maxPath : Nat := 4095

def node? (t : FileTree) (key : TreeKey) : Option FileNode :=
  if key = [] then some .directory else t.entries.lookup key

def put (t : FileTree) (key : TreeKey) (node : FileNode) : FileTree :=
  if t.entries.any (·.1 = key) then
    { t with entries := t.entries.map fun e => if e.1 = key then (key, node) else e }
  else { t with entries := t.entries ++ [(key, node)] }

def erase (t : FileTree) (key : TreeKey) : FileTree :=
  { t with entries := t.entries.filter (·.1 ≠ key) }

def walk (t : FileTree) : TreeKey → List Bytes → Except SystemError TreeKey
  | key, [] => .ok key
  | key, segment :: more =>
    if segment = [] ∨ segment = Path.current then walk t key more
    else if segment = Path.above then walk t key.dropLast more
    else if maxName < segment.length then .error .nameTooLong
    else match t.node? (key ++ [segment]) with
      | some .directory => walk t (key ++ [segment]) more
      | some _ => .error .notADirectory
      | none => .error .notFound

/-- Finds out what a path means, whatever the length of its last name. -/
def placeWithin (t : FileTree) (p : Path) : Except SystemError TreePlace :=
  if 0 ∈ p.bytes then .error .zeroInPath
  else if p.bytes = [] then .error .notFound
  else if maxPath < p.bytes.length then .error .nameTooLong
  else
    let start := if p.isAbsolute then [] else t.here
    let backwards := p.segments.reverse
    match backwards.dropWhile (· = []) with
    | [] => .ok (.directory start)
    | last :: before =>
      if last = Path.current ∨ last = Path.above then
        (t.walk start p.segments).map .directory
      else do
        let parent ← t.walk start before.reverse
        pure (.name parent last (backwards.head? = some []))

def place (t : FileTree) (p : Path) : Except SystemError TreePlace := do
  match ← t.placeWithin p with
  | .name parent name trailingSlash =>
    if maxName < name.length then throw .nameTooLong
    pure (.name parent name trailingSlash)
  | other => pure other

/-- Finds out which name in which directory a path means that is to be written. A slash behind a
name asks for a directory. -/
def writingPlace (t : FileTree) (p : Path) : Except SystemError TreeKey := do
  match ← t.placeWithin p with
  | .directory _ => throw .isADirectory
  | .name parent name trailingSlash =>
    if trailingSlash then throw .isADirectory
    if maxName < name.length then throw .nameTooLong
    pure (parent ++ [name])

def find (t : FileTree) (p : Path) : Except SystemError FileNode := do
  match ← t.place p with
  | .directory _ => pure .directory
  | .name parent name trailingSlash =>
    match t.node? (parent ++ [name]) with
    | none => throw .notFound
    | some .directory => pure .directory
    | some node => if trailingSlash then throw .notADirectory else pure node

def pathExists (t : FileTree) (p : Path) : Bool := (t.find p).isOk

def isFile (t : FileTree) (p : Path) : Bool :=
  match t.find p with
  | .ok (.file _) => true
  | _ => false

def read (t : FileTree) (p : Path) : Except SystemError Bytes := do
  match ← t.find p with
  | .file content => pure content
  | .directory => throw .isADirectory
  | .fullDevice => pure []

/-- Opens the file at a path for writing: it is made, or loses its content. -/
def create (t : FileTree) (p : Path) : Except SystemError FileTree := do
  let key ← t.writingPlace p
  match t.node? key with
  | some .directory => throw .isADirectory
  | some .fullDevice => pure t
  | _ => pure (t.put key (.file []))

/-- Writes a file from its start; a device that is full takes nothing. -/
def write (t : FileTree) (p : Path) (content : Bytes) : Except SystemError FileTree := do
  let key ← t.writingPlace p
  match t.node? key with
  | some .directory => throw .isADirectory
  | some .fullDevice => if content = [] then pure t else throw .noSpace
  | _ => pure (t.put key (.file content))

def makeDirectory (t : FileTree) (p : Path) : Except SystemError FileTree := do
  match ← t.place p with
  | .directory _ => throw (.code 17)
  | .name parent name _ =>
    match t.node? (parent ++ [name]) with
    | some _ => throw (.code 17)
    | none => pure (t.put (parent ++ [name]) .directory)

/-- Removes the file at a path; directories stay. -/
def remove (t : FileTree) (p : Path) : Except SystemError FileTree := do
  match ← t.place p with
  | .directory _ => throw .isADirectory
  | .name parent name trailingSlash =>
    match t.node? (parent ++ [name]) with
    | none => throw .notFound
    | some .directory => throw .isADirectory
    | some _ => if trailingSlash then throw .notADirectory else pure (t.erase (parent ++ [name]))

/-- Removes a file if it is there; tells whether it was. -/
def removeIfThere (t : FileTree) (p : Path) : Except SystemError (Bool × FileTree) :=
  match t.remove p with
  | .ok t' => .ok (true, t')
  | .error e => if e = .notFound then .ok (false, t) else .error e

end FileTree
end PageQuery
