import PageQuery.Decimal.Shortest
import PageQuery.Text.Quoted

/-!
What can be wrong with a text of the data format or with the values in it, and the messages.
-/
namespace PageQuery.Json

inductive Found where
  | null
  | bool (b : Bool)
  | integer (n : Int)
  | float (x : Decimal.Binary64)
  | string (t : Text)
  | list
  | object
deriving DecidableEq, Repr

def Found.render : Found → Text
  | null => "null"
  | bool b => "boolean `" ++ (if b then "true" else "false" : Text) ++ "`"
  | integer n => "integer `" ++ Text.ofInt n ++ "`"
  | float x => "floating point `" ++ x.render ++ "`"
  | string t => "string " ++ Text.quoted t
  | list => "sequence"
  | object => "map"

inductive Problem where
  /-- The text ends where a value is due. -/
  | endOfValue
  | endOfString
  | endOfList
  | endOfObject
  | expectedValue
  | expectedIdent
  | expectedColon
  | expectedListEnd
  | expectedObjectEnd
  | trailingComma
  | trailingCharacters
  | keyMustBeString
  | invalidNumber
  | numberOutOfRange
  | invalidEscape
  | controlCharacter
  | invalidCodePoint
  | unfinishedHexEscape
  | loneSurrogate
  | nestedTooDeep
  | invalidType (found : Found) (expected : Text)
  | invalidValue (found : Found) (expected : Text)
  | invalidLength (length : Nat) (expected : Text)
  | missingField (name : Text)
  | duplicateField (name : Text)
  | unknownVariant (name : Text) (known : List Text)
deriving DecidableEq, Repr

inductive Category where
  | writing
  | values
  | endOfText
deriving DecidableEq, Repr

namespace Problem

def category : Problem → Category
  | endOfValue | endOfString | endOfList | endOfObject => .endOfText
  | invalidType .. | invalidValue .. | invalidLength .. | missingField _ | duplicateField _
  | unknownVariant .. => .values
  | _ => .writing

/-- A name between grave accents. -/
def named (name : Text) : Text := '`' :: name ++ ['`']

def oneOf : List Text → Text
  | [] => "there are no variants"
  | [a] => "expected " ++ named a
  | [a, b] => "expected " ++ named a ++ " or " ++ named b
  | names => "expected one of " ++ Text.joined ", " (names.map named)

def message : Problem → Text
  | endOfValue => "EOF while parsing a value"
  | endOfString => "EOF while parsing a string"
  | endOfList => "EOF while parsing a list"
  | endOfObject => "EOF while parsing an object"
  | expectedValue => "expected value"
  | expectedIdent => "expected ident"
  | expectedColon => "expected `:`"
  | expectedListEnd => "expected `,` or `]`"
  | expectedObjectEnd => "expected `,` or `\x7d`"
  | trailingComma => "trailing comma"
  | trailingCharacters => "trailing characters"
  | keyMustBeString => "key must be a string"
  | invalidNumber => "invalid number"
  | numberOutOfRange => "number out of range"
  | invalidEscape => "invalid escape"
  | controlCharacter => "control character (\\u0000-\\u001F) found while parsing a string"
  | invalidCodePoint => "invalid unicode code point"
  | unfinishedHexEscape => "unexpected end of hex escape"
  | loneSurrogate => "lone leading surrogate in hex escape"
  | nestedTooDeep => "recursion limit exceeded"
  | invalidType found expected =>
    "invalid type: " ++ found.render ++ ", expected " ++ expected
  | invalidValue found expected =>
    "invalid value: " ++ found.render ++ ", expected " ++ expected
  | invalidLength length expected =>
    "invalid length " ++ Text.ofNat length ++ ", expected " ++ expected
  | missingField name => "missing field " ++ named name
  | duplicateField name => "duplicate field " ++ named name
  | unknownVariant name known => "unknown variant " ++ named name ++ ", " ++ oneOf known

end Problem
end PageQuery.Json
