import PageQuery.Json.Number
import PageQuery.Json.Quoted

/-!
A text of the data format as a tree. The tree ends at the first thing that is wrong with the
writing, so that a reader of values finds problems in the order of the text, whichever kind they are
of.
-/
namespace PageQuery.Json

open Text (Symbol)

inductive ListEnd where
  | closed
  /-- The last item is not complete. -/
  | unfinished
  | endOfText
  /-- Neither a comma nor a bracket follows an item. -/
  | badDelimiter
  /-- The bracket follows a comma. -/
  | closedAfterComma
deriving DecidableEq, Repr

inductive ObjectEnd where
  | closed
  /-- The last value is not complete. -/
  | unfinished
  | endOfText
  /-- Neither a comma nor a brace follows a value. -/
  | badDelimiter
  /-- No string stands where a key is due. -/
  | badKey
  /-- The brace follows a comma. -/
  | closedAfterComma
  | endOfTextAfterComma
  /-- The last key is not complete. -/
  | brokenKey (key : RawString)
  /-- No colon follows a key; the text may end there. -/
  | noColon (key : RawString) (atEnd : Bool)
deriving DecidableEq, Repr

/-- A value as written, up to its end or to the first thing that is wrong. -/
inductive Node where
  | null
  | bool (b : Bool)
  | number (n : Numeral)
  /-- A number that lacks a digit; the text may end there. -/
  | badNumber (atEnd : Bool)
  | string (s : RawString)
  | list (items : List Node) (ending : ListEnd)
  | object (members : List (RawString × Node)) (ending : ObjectEnd)
  /-- No value. -/
  | broken (problem : Problem)

def isSpace : Symbol → Bool
  | .char c => c = ' ' || c = '\n' || c = '\t' || c = '\r'
  | .stray _ => false

def skipSpace (s : List Symbol) : List Symbol := s.dropWhile isSpace

namespace Node

/-- Reads the rest of a word that stands for a value. -/
def takeWord (value : Node) : Text → List Symbol → Node × Option (List Symbol)
  | [], rest => (value, some rest)
  | _ :: _, [] => (broken .endOfValue, none)
  | c :: word, symbol :: rest =>
    if symbol = .char c then takeWord value word rest else (broken .expectedIdent, none)

def takeNumber (s : List Symbol) : Node × Option (List Symbol) :=
  match Numeral.take s with
  | .ok (n, rest) => (number n, some rest)
  | .error atEnd => (badNumber atEnd, none)

/-- Reads a string after its opening quote. -/
def takeString (s : List Symbol) : Node × Option (List Symbol) :=
  let (raw, rest) := RawString.take s
  (string raw, if raw.ending = .closed then some rest else none)

mutual

/-- Reads a value, and gives what follows it if it is complete. -/
def take : Nat → List Symbol → Node × Option (List Symbol)
  | 0, _ => (broken .endOfValue, none)
  | fuel + 1, s =>
    match skipSpace s with
    | [] => (broken .endOfValue, none)
    | .stray _ :: _ => (broken .expectedValue, none)
    | .char c :: rest =>
      if c = '"' then takeString rest
      else if c = '[' then
        let (items, ending, rest) := takeItems fuel true rest
        (list items ending, rest)
      else if c = '\x7b' then
        let (members, ending, rest) := takeMembers fuel true rest
        (object members ending, rest)
      else if c = 'n' then takeWord null "ull" rest
      else if c = 't' then takeWord (bool true) "rue" rest
      else if c = 'f' then takeWord (bool false) "alse" rest
      else if c = '-' ∨ c.isDigit then takeNumber (.char c :: rest)
      else (broken .expectedValue, none)

/-- Reads the items of a list from a comma, or from the first item on. -/
def takeItems : Nat → Bool → List Symbol → List Node × ListEnd × Option (List Symbol)
  | 0, _, _ => ([], .endOfText, none)
  | fuel + 1, isFirst, s =>
    match skipSpace s with
    | [] => ([], .endOfText, none)
    | .char ']' :: rest => ([], .closed, some rest)
    | symbol :: rest =>
      if isFirst then takeItem fuel (symbol :: rest)
      else if symbol = .char ',' then
        if (skipSpace rest).head? = some (.char ']') then ([], .closedAfterComma, none)
        else takeItem fuel rest
      else ([], .badDelimiter, none)

def takeItem : Nat → List Symbol → List Node × ListEnd × Option (List Symbol)
  | 0, _ => ([], .endOfText, none)
  | fuel + 1, s =>
    match take fuel s with
    | (item, none) => ([item], .unfinished, none)
    | (item, some rest) =>
      let (items, ending, rest) := takeItems fuel false rest
      (item :: items, ending, rest)

/-- Reads the members of an object from a comma, or from the first member on. -/
def takeMembers :
    Nat → Bool → List Symbol → List (RawString × Node) × ObjectEnd × Option (List Symbol)
  | 0, _, _ => ([], .endOfText, none)
  | fuel + 1, isFirst, s =>
    match skipSpace s with
    | [] => ([], .endOfText, none)
    | .char '\x7d' :: rest => ([], .closed, some rest)
    | symbol :: rest =>
      if isFirst then takeMember fuel (symbol :: rest)
      else if symbol = .char ',' then
        match skipSpace rest with
        | [] => ([], .endOfTextAfterComma, none)
        | .char '\x7d' :: _ => ([], .closedAfterComma, none)
        | rest => takeMember fuel rest
      else ([], .badDelimiter, none)

def takeMember : Nat → List Symbol → List (RawString × Node) × ObjectEnd × Option (List Symbol)
  | fuel + 1, .char '"' :: rest =>
    let (key, rest) := RawString.take rest
    if key.ending ≠ .closed then ([], .brokenKey key, none)
    else match skipSpace rest with
      | .char ':' :: rest =>
        match take fuel rest with
        | (value, none) => ([(key, value)], .unfinished, none)
        | (value, some rest) =>
          let (members, ending, rest) := takeMembers fuel false rest
          ((key, value) :: members, ending, rest)
      | rest => ([], .noColon key rest.isEmpty, none)
  | _, _ => ([], .badKey, none)

end

/-- Reads the value at the front of a text. Each step of the reader consumes a symbol or leads to
one that does, and there are at most three steps for each symbol. -/
def ofSymbols (s : List Symbol) : Node × Option (List Symbol) := take (3 * s.length + 3) s

end Node
end PageQuery.Json
