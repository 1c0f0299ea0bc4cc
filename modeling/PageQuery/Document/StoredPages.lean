import PageQuery.Files.Tree
import PageQuery.Failure
import PageQuery.Json.Value

/-!
Pages as they are stored in a file: an object with a list of pages, each tagged with its kind. The
file is written with one member or item a line; it is read in any writing, with unknown members
passed over and objects also given as lists.
-/
namespace PageQuery

/-- A stored page: its text, or why it has none. -/
inductive StoredPage where
  | text (text : Text)
  | unreadable (cause : Text)
deriving DecidableEq, Repr

namespace StoredPage

open Json (Node Problem RawString Value)

inductive Kind where
  | text
  | unreadable
deriving DecidableEq, Repr

def Kind.tag : Kind → Text
  | text => "text"
  | unreadable => "unreadable"

def Kind.field : Kind → Text
  | text => "text"
  | unreadable => "cause"

def Kind.expectation : Kind → Text
  | text => "struct variant MemoryPage::Text with 1 element"
  | unreadable => "struct variant MemoryPage::Unreadable with 1 element"

def Kind.page : Kind → Text → StoredPage
  | text, content => .text content
  | unreadable, content => .unreadable content

def kind : StoredPage → Kind
  | text _ => .text
  | unreadable _ => .unreadable

def content : StoredPage → Text
  | text t => t
  | unreadable cause => cause

def kindField : Text := "kind"

def expectation : Text := "internally tagged enum MemoryPage"

def Kind.ofTag (tag : Text) : Except Problem Kind :=
  if tag = Kind.text.tag then .ok .text
  else if tag = Kind.unreadable.tag then .ok .unreadable
  else .error (.unknownVariant tag [Kind.text.tag, Kind.unreadable.tag])

def Kind.ofNode (n : Node) : Except Problem Kind := do
  Kind.ofTag (← n.toText "variant identifier")

/-- The members of a page: the kind as soon as it is met, the others kept until the page ends. -/
structure Members where
  kind : Option Kind := none
  others : List (Text × Value) := []

def Members.checkNew (m : Members) (name : Text) : Except Problem Unit :=
  if name = kindField ∧ m.kind.isSome then .error (.duplicateField kindField) else .ok ()

def Members.take (levels : Nat) (m : Members) :
    List (RawString × Node) → Except Problem Members
  | [] => .ok m
  | (key, value) :: more => do
    let name ← key.text
    m.checkNew name
    if name = kindField then
      let kind ← Kind.ofNode value
      Members.take levels { m with kind := some kind } more
    else
      let kept ← value.keep levels
      Members.take levels { m with others := m.others ++ [(name, kept)] } more

def contentOf (v : Value) : Except Problem Text :=
  match v with
  | .string t => .ok t
  | other => .error (.invalidType other.found "a string")

/-- Finds the content among the members of a page; it must be there once. -/
def contentOfMembers (kind : Kind) (found : Option Text) :
    List (Text × Value) → Except Problem Text
  | [] => match found with
    | some t => .ok t
    | none => .error (.missingField kind.field)
  | (name, value) :: more =>
    if name = kind.field then
      match found with
      | some _ => .error (.duplicateField kind.field)
      | none => do contentOfMembers kind (some (← contentOf value)) more
    else contentOfMembers kind found more

def contentOfItems (kind : Kind) : List Value → Except Problem Text
  | [] => .error (.invalidLength 0 kind.expectation)
  | value :: more => do
    let t ← contentOf value
    if more.isEmpty then pure t
    else throw (.invalidLength (more.length + 1) "1 element in sequence")

def ofNode (levels : Nat) : Node → Except Problem StoredPage
  | .object members ending => do
    let inner ← Json.enter levels
    let m ← Members.take inner {} members
    ending.check m.checkNew
    match m.kind with
    | none => throw (.missingField kindField)
    | some kind => pure (kind.page (← contentOfMembers kind none m.others))
  | .list items ending => do
    let inner ← Json.enter levels
    match items with
    | [] =>
      ending.check
      throw (.missingField kindField)
    | first :: more =>
      let kind ← Kind.ofNode first
      let values ← Node.keepItems inner more
      ending.check
      pure (kind.page (← contentOfItems kind values))
  | other => .error (other.mismatch expectation)

def ofNodes (levels : Nat) : List Node → Except Problem (List StoredPage)
  | [] => .ok []
  | item :: more => do
    let page ← ofNode levels item
    let pages ← ofNodes levels more
    pure (page :: pages)

/-- A page in the file, between the brackets of the list. -/
def render (p : StoredPage) : Text :=
  "    \x7b\n      \"kind\": " ++ Json.quote p.kind.tag ++ ",\n      " ++ Json.quote p.kind.field
    ++ ": " ++ Json.quote p.content ++ "\n    \x7d"

end StoredPage

namespace StoredPages

open Json (Node Problem RawString)

def field : Text := "pages"

def render (pages : List StoredPage) : Text :=
  let list : Text :=
    if pages.isEmpty then "[]"
    else "[\n" ++ Text.joined ",\n" (pages.map StoredPage.render) ++ "\n  ]"
  "\x7b\n  \"pages\": " ++ list ++ "\n\x7d"

def ofList (levels : Nat) : Node → Except Problem (List StoredPage)
  | .list items ending => do
    let inner ← Json.enter levels
    let pages ← StoredPage.ofNodes inner items
    ending.check
    pure pages
  | other => .error (other.mismatch "a sequence")

def checkNew (found : Option (List StoredPage)) (name : Text) : Except Problem Unit :=
  if name = field ∧ found.isSome then .error (.duplicateField field) else .ok ()

/-- Reads the members of the file; unknown ones are passed over. -/
def ofMembers (levels : Nat) (found : Option (List StoredPage)) :
    List (RawString × Node) → Except Problem (Option (List StoredPage))
  | [] => .ok found
  | (key, value) :: more => do
    let name ← key.text
    checkNew found name
    if name = field then
      let pages ← ofList levels value
      ofMembers levels (some pages) more
    else
      value.skip
      ofMembers levels found more

def ofNode : Node → Except Problem (List StoredPage)
  | .object members ending => do
    let inner ← Json.enter Json.maxLevels
    let found ← ofMembers inner none members
    ending.check (checkNew found)
    match found with
    | some pages => pure pages
    | none => throw (.missingField field)
  | .list items ending => do
    let inner ← Json.enter Json.maxLevels
    match items with
    | [] =>
      ending.check
      throw (.invalidLength 0 "struct MemoryFile with 1 element")
    | [only] =>
      let pages ← ofList inner only
      ending.checkBehind
      pure pages
    | first :: _ :: _ =>
      let _ ← ofList inner first
      throw .trailingCharacters
  | other => .error (other.mismatch "struct MemoryFile")

def parse (bytes : Text.Bytes) : Except Problem (List StoredPage) :=
  Json.read ofNode (Text.symbols bytes)

end StoredPages
end PageQuery
