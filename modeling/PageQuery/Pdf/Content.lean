import PageQuery.Pdf.Encoding
import PageQuery.Pdf.Object

/-!
The text that the content of a page shows. Content is a row of operators behind their operands; the
encoding of the font in use decides whether the bytes of a string can be read.
-/
namespace PageQuery.Pdf

open Text (Bytes)

inductive TextProblem where
  /-- The font lacks an entry that its encoding needs. -/
  | missingEntry
  /-- The encoding of a font is unknown. -/
  | unknownEncoding
deriving DecidableEq, Repr

def TextProblem.message : TextProblem → Text
  | missingEntry => "A required dictionary key was not found"
  | unknownEncoding => "Could not decode content"

structure Operation where
  operator : Bytes
  operands : List Object
deriving Repr

/-- Reads operations, as many as there are bytes at most. -/
def operationsWithin : Nat → List Object → Bytes → List Operation
  | 0, _, _ => []
  | fuel + 1, operands, s =>
    match dropSpace false s with
    | [] => []
    | b :: rest =>
      match readObject (b :: rest) with
      | some (o, rest) => operationsWithin fuel (operands ++ [o]) rest
      | none =>
        if isRegular b then
          let (operator, rest) := takeWord (b :: rest)
          ⟨operator, operands⟩ :: operationsWithin fuel [] rest
        else operationsWithin fuel [] rest

def operations (content : Bytes) : List Operation :=
  operationsWithin (content.length + 1) [] content

def stringsOf (operands : List Object) : List Bytes := operands.filterMap fun
  | .string content => some content
  | _ => none

def shownStrings (operands : List Object) : List Bytes := operands.flatMap fun
  | .string content => [content]
  | .array items => stringsOf items
  | _ => []

/-- A line feed at the end of a text, unless there is one. -/
def endLine (t : Text) : Text := if t.getLast? = some '\n' then t else t ++ ['\n']

inductive Step where
  /-- A string is shown in the font of an encoding. -/
  | shows (encoding : Bytes) (content : Bytes)
  /-- A line of text ends. -/
  | endsLine
deriving DecidableEq, Repr

def stepsOf (encodings : List (Bytes × Bytes)) (current : Option Bytes) :
    List Operation → List Step
  | [] => []
  | ⟨operator, operands⟩ :: more =>
    if operator = ascii "Tf" then
      let font := match operands with
        | .name name :: _ => encodings.lookup name
        | _ => none
      stepsOf encodings font more
    else if operator = ascii "Tj" ∨ operator = ascii "TJ" then
      let shown := match current with
        | some encoding => (shownStrings operands).map (Step.shows encoding)
        | none => []
      shown ++ stepsOf encodings current more
    else if operator = ascii "ET" then .endsLine :: stepsOf encodings current more
    else stepsOf encodings current more

def textOfSteps (t : Text) : List Step → Except TextProblem Text
  | [] => .ok t
  | .shows encoding content :: more => match decodeWith? encoding content with
    | some shown => textOfSteps (t ++ shown) more
    | none => .error .unknownEncoding
  | .endsLine :: more => textOfSteps (endLine t) more

/-- The encodings in which steps try to read strings, up to the first one that is unknown. -/
def encodingsTried : List Step → List Bytes
  | [] => []
  | .shows encoding content :: more =>
    if (decodeWith? encoding content).isSome then encoding :: encodingsTried more else [encoding]
  | .endsLine :: more => encodingsTried more

/-- The steps of a page in one font, if the encoding of the font needs nothing else. -/
def pageSteps (font encoding content : Bytes) : Except TextProblem (List Step) :=
  if encoding = mappedEncoding then .error .missingEntry
  else .ok (stepsOf [(font, encoding)] none (operations content))

def pageText (font encoding content : Bytes) : Except TextProblem Text := do
  textOfSteps [] (← pageSteps font encoding content)

def pageEncodings (font encoding content : Bytes) : List Bytes :=
  match pageSteps font encoding content with
  | .ok steps => encodingsTried steps
  | .error _ => []

def lineContent (line : Text) : Bytes :=
  ascii "BT\n/F1 24 Tf\n72 700 Td\n" ++ Object.quoteString (Text.encode line) ++ ascii " Tj\nET"

def linesContent (lines : List Text) : Bytes := (ascii "\n").intercalate (lines.map lineContent)

end PageQuery.Pdf
