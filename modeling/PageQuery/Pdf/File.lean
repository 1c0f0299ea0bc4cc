import PageQuery.Pdf.Content
import PageQuery.Pdf.Library
import PageQuery.Text.Quoted

/-!
A small library for PDF files, with which the program can be run. It knows files whose pages have a
font and a content of their own. The objects of a page keep their numbers when other pages are left
out, so a file with fewer pages has gaps between its numbers.
-/
namespace PageQuery

open Text (Bytes)

structure PdfPage where
  font : Nat
  resources : Nat
  stream : Nat
  page : Nat
  encoding : Bytes
  content : Bytes
deriving DecidableEq, Repr

/-- A file: its pages, the numbers of the other objects, and the last number in use. -/
structure PdfFile where
  pages : List PdfPage
  tree : Nat
  catalog : Nat
  last : Nat
  /-- Whether reading it takes a key. -/
  encrypted : Bool := false
deriving DecidableEq, Repr

namespace PdfPage

def fontName : Bytes := Pdf.ascii "F1"

def text (p : PdfPage) : Except Pdf.TextProblem Text :=
  Pdf.pageText fontName p.encoding p.content

def decodingMessage (encoding : Bytes) : Text :=
  "Decoding text with " ++ (if (Pdf.byteMap? encoding).isSome then "OneByteEncoding".toList
    else "SimpleEncoding(\n    " ++ Text.quoted (Text.decodeLossy encoding) ++ ",\n)")

def textLog (p : PdfPage) : List Text :=
  (Pdf.pageEncodings fontName p.encoding p.content).map decodingMessage

end PdfPage

namespace PdfFile

open Pdf (Object ascii)

def ofPages (pages : List (List Text × Text)) : PdfFile where
  pages := pages.zipIdx.map fun ((lines, encoding), k) =>
    { font := 4 * k + 2, resources := 4 * k + 3, stream := 4 * k + 4, page := 4 * k + 5
      encoding := Text.encode encoding, content := Pdf.linesContent lines }
  tree := 1
  catalog := 4 * pages.length + 2
  last := 4 * pages.length + 2

def numberedPages (f : PdfFile) : List (PageNumber × PdfPage) :=
  (PageNumber.range f.pages.length).zip f.pages

def numberedIds (f : PdfFile) : List (PageNumber × Nat) :=
  f.numberedPages.map fun page => (page.1, page.2.page)

def deletePages (f : PdfFile) (dropped : List PageNumber) : PdfFile :=
  { f with pages := (f.numberedPages.filter fun page => page.1 ∉ dropped).map (·.2) }

structure Numbered where
  number : Nat
  value : Object
  stream : Option Bytes := none
deriving Repr

def dict (entries : List (String × Object)) : Object :=
  .dictionary (entries.map fun (key, value) => (ascii key, value))

def nameOf (word : String) : Object := .name (ascii word)

def Numbered.render (o : Numbered) : Bytes :=
  let value := match o.stream with
    | none => o.value.render
    | some content =>
      o.value.render ++ ascii "stream\n" ++ content ++ ascii "\nendstream "
  Text.encode (Text.ofNat o.number) ++ ascii " 0 obj\n" ++ value ++ ascii "\nendobj\n"

def pageObjects (tree : Nat) (p : PdfPage) : List Numbered := [
  ⟨p.font, dict [("Type", nameOf "Font"), ("Subtype", nameOf "Type1"),
    ("BaseFont", nameOf "Courier"), ("Encoding", .name p.encoding)], none⟩,
  ⟨p.resources, dict [("Font", .dictionary [(PdfPage.fontName, .reference p.font)])], none⟩,
  ⟨p.stream, dict [("Length", .integer p.content.length)], some p.content⟩,
  ⟨p.page, dict [("Type", nameOf "Page"), ("Parent", .reference tree),
    ("Contents", .reference p.stream), ("Resources", .reference p.resources)], none⟩]

def objects (f : PdfFile) : List Numbered :=
  let kids := f.pages.map fun p => Object.reference p.page
  let box : Object := .array [.integer 0, .integer 0, .integer 595, .integer 842]
  ⟨f.tree, dict [("Type", nameOf "Pages"), ("Kids", .array kids),
      ("Count", .integer f.pages.length), ("MediaBox", box)], none⟩
    :: f.pages.flatMap (pageObjects f.tree)
    ++ [⟨f.catalog, dict [("Type", nameOf "Catalog"), ("Pages", .reference f.tree)], none⟩]

def fourBytes (n : Nat) : Bytes :=
  [Text.byte (n / 16777216), Text.byte (n / 65536), Text.byte (n / 256), Text.byte n]

/-- Numbers that follow each other, as first numbers and counts. -/
def runs : List Nat → List (Nat × Nat)
  | [] => []
  | n :: more => match runs more with
    | (first, count) :: rest =>
      if first = n + 1 then (n, count + 1) :: rest else (n, 1) :: (first, count) :: rest
    | [] => [(n, 1)]

/-- Writes objects from a place in the file on, and gives the places. -/
def layout (place : Nat) : List Numbered → Bytes × List (Nat × Nat)
  | [] => ([], [])
  | o :: more =>
    let written := o.render
    let (rest, places) := layout (place + written.length) more
    (written ++ rest, (o.number, place) :: places)

/-- The bytes of a file. The table of the places of its objects is itself an object, with a number
of its own behind all others. -/
def render (f : PdfFile) : Bytes :=
  let header := ascii "%PDF-1.5\n"
  let (body, places) := layout header.length f.objects
  let number := f.last + 1
  let start := header.length + body.length
  let places := places ++ [(number, start)]
  let index := (runs (places.map (·.1))).flatMap fun (first, count) =>
    [Object.integer first, Object.integer count]
  let rows := places.flatMap fun (_, place) => 1 :: fourBytes place ++ [0, 0]
  let lock := if f.encrypted then [("Encrypt", dict [("Filter", nameOf "Unknown")])] else []
  let table : Numbered := ⟨number,
    dict ([("Root", .reference f.catalog)] ++ lock ++ [("Type", nameOf "XRef"),
      ("Size", .integer (number + 1)),
      ("W", .array [.integer 1, .integer 4, .integer 2]), ("Index", .array index),
      ("Length", .integer rows.length)]), some rows⟩
  header ++ body ++ table.render
    ++ ascii "\nstartxref\n" ++ Text.encode (Text.ofNat start) ++ ascii "\n%%EOF"

inductive Problem where
  | noHeader
  | noTrailer
  /-- An object that another one names is missing or is not of the kind needed. -/
  | noObject
deriving DecidableEq, Repr

def Problem.message : Problem → Text
  | noHeader => "Invalid file header"
  | noTrailer => "Invalid cross-reference table (invalid start value)"
  | noObject => "A required object was not found"

/-- What reading finds in a file: its objects, the last of a number first, and its trailer. -/
structure Parts where
  objects : List Numbered := []
  trailer : Option Object := none

def takeStream (value : Object) (s : Bytes) : Option Bytes × Bytes :=
  match value.get? "Length", Pdf.takeWord (Pdf.dropSpace false s) with
  | some (.integer length), (word, rest) =>
    if word = ascii "stream" then
      let rest := match rest with
        | 0x0D :: 0x0A :: rest => rest
        | 0x0A :: rest => rest
        | rest => rest
      (some (rest.take length.toNat), rest.drop length.toNat)
    else (none, s)
  | _, _ => (none, s)

def takeNumbered? (number : Nat) (s : Bytes) : Option (Numbered × Bytes) := do
  let (generation, rest) := Pdf.takeWord (Pdf.dropSpace false s)
  let _ ← Pdf.natural? generation
  let (mark, rest) := Pdf.takeWord (Pdf.dropSpace false rest)
  if mark ≠ ascii "obj" then none
  let (value, rest) ← Pdf.readObject rest
  let (stream, rest) := takeStream value rest
  pure (⟨number, value, stream⟩, rest)

/-- Whether a stream is a table of places, whose dictionary is a trailer too. -/
def Numbered.isTable (o : Numbered) : Bool :=
  match o.value.get? "Type" with
  | some (.name n) => n = ascii "XRef"
  | _ => false

/-- Reads the parts of a file from its words; words that start no part are passed over. -/
def takeParts : Nat → Parts → Bytes → Parts
  | 0, parts, _ => parts
  | fuel + 1, parts, s =>
    match Pdf.dropSpace false s with
    | [] => parts
    | b :: rest =>
      let (word, after) := Pdf.takeWord (b :: rest)
      if word = [] then takeParts fuel parts rest
      else if word = ascii "trailer" then
        match Pdf.readObject after with
        | some (value, rest) => takeParts fuel { parts with trailer := some value } rest
        | none => takeParts fuel parts after
      else match (Pdf.natural? word).bind fun n => takeNumbered? n after with
        | some (o, rest) =>
          let trailer := if o.isTable then some o.value else parts.trailer
          takeParts fuel { objects := o :: parts.objects, trailer } rest
        | none => takeParts fuel parts after

def Parts.resolve (p : Parts) : Option Object → Except Problem Numbered
  | some (.reference number) => match p.objects.find? (·.number = number) with
    | some o => .ok o
    | none => .error .noObject
  | _ => .error .noObject

def Parts.page (p : Parts) (reference : Object) : Except Problem PdfPage := do
  let page ← p.resolve (some reference)
  let resources ← p.resolve (page.value.get? "Resources")
  let stream ← p.resolve (page.value.get? "Contents")
  let fonts := (resources.value.get? "Font").getD .null
  let font ← p.resolve (fonts.get? "F1")
  let encoding := match font.value.get? "Encoding" with
    | some (.name n) => n
    | _ => ascii "StandardEncoding"
  pure { font := font.number, resources := resources.number, stream := stream.number
         page := page.number, encoding, content := stream.stream.getD [] }

def mark : Bytes := ascii "%PDF-"

/-- Whether bytes start as a file does: the mark and a version, on a line that ends. -/
def hasHeader (bytes : Bytes) : Bool :=
  let inLine := fun b : UInt8 => b != 0x0D && b != 0x0A
  let version := (bytes.drop mark.length).takeWhile inLine
  mark.isPrefixOf bytes && (Text.decode? version).isSome && bytes.any (!inLine ·)

def parse (bytes : Bytes) : Except Problem PdfFile := do
  if !hasHeader bytes then throw .noHeader
  let parts := takeParts (bytes.length + 1) {} bytes
  match parts.trailer with
  | none => throw .noTrailer
  | some trailer =>
    let catalog ← parts.resolve (trailer.get? "Root")
    let tree ← parts.resolve (catalog.value.get? "Pages")
    let kids := match tree.value.get? "Kids" with
      | some (.array kids) => kids
      | _ => []
    let pages ← kids.mapM parts.page
    pure { pages, tree := tree.number, catalog := catalog.number
           last := (parts.objects.map (·.number)).foldl max 0
           encrypted := (trailer.get? "Encrypt").isSome }

/-- The library of such files. It can unlock none, and drops what is not used when it writes. -/
def library : PdfLibrary where
  File := PdfFile
  PageId := Nat
  load
    | .error e => .error e.message
    | .ok bytes => (parse bytes).mapError Problem.message
  isEncrypted f := f.encrypted
  decrypt _ _ := .error "the document uses an encryption scheme that is not supported"
  pages := numberedIds
  text f number := match f.pages[number.offset]? with
    | none => .error Problem.noObject.message
    | some page => page.text.mapError Pdf.TextProblem.message
  textLog f number := match f.pages[number.offset]? with
    | none => []
    | some page => page.textLog
  deletePages := deletePages
  prune f := f
  compress f := f
  bytes := render
  saved _ written := written.mapError SystemError.message

end PdfFile
end PageQuery
