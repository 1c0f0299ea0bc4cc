import PageQuery.Text.Folding
import PageQuery.Text.PropertyTable
import PageQuery.Text.Blank
import PageQuery.Text.Script
import PageQuery.Text.Category

/-!
Sets of characters by the names of their properties. Names are compared without regard to case,
blanks, hyphens, underscores and a leading `is`.
-/
namespace PageQuery.Text

inductive PropertyProblem where
  | unknownProperty
  | unknownValue
deriving DecidableEq, Repr

namespace Property

/-- The name `isc`, whose first two letters are not the word `is`. -/
def commentName : Text := "isc"

def plainName (name : Text) : Text :=
  let starts := (name.take 2).map Char.toLower = "is".toList
  let kept := if starts then name.drop 2 else name
  let counts (c : Char) : Bool := c.toNat < 0x80 && c ≠ ' ' && c ≠ '_' && c ≠ '-'
  let plain := (kept.filter counts).map Char.toLower
  if starts ∧ plain = ['c'] then commentName else plain

def categories (cs : List Category) : CharSet := .unions (cs.map Category.chars)

def categoryNames : List (List String × List Category) := [
  (["lu", "uppercaseletter"], [.uppercaseLetter]),
  (["ll", "lowercaseletter"], [.lowercaseLetter]),
  (["lt", "titlecaseletter"], [.titlecaseLetter]),
  (["lc", "casedletter"], [.uppercaseLetter, .lowercaseLetter, .titlecaseLetter]),
  (["lm", "modifierletter"], [.modifierLetter]),
  (["lo", "otherletter"], [.otherLetter]),
  (["l", "letter"],
    [.uppercaseLetter, .lowercaseLetter, .titlecaseLetter, .modifierLetter, .otherLetter]),
  (["mn", "nonspacingmark"], [.nonspacingMark]),
  (["mc", "spacingmark"], [.spacingMark]),
  (["me", "enclosingmark"], [.enclosingMark]),
  (["m", "mark", "combiningmark"], [.nonspacingMark, .spacingMark, .enclosingMark]),
  (["nd", "decimalnumber", "digit"], [.decimalNumber]),
  (["nl", "letternumber"], [.letterNumber]),
  (["no", "othernumber"], [.otherNumber]),
  (["n", "number"], [.decimalNumber, .letterNumber, .otherNumber]),
  (["pc", "connectorpunctuation"], [.connectorPunctuation]),
  (["pd", "dashpunctuation"], [.dashPunctuation]),
  (["ps", "openpunctuation"], [.openPunctuation]),
  (["pe", "closepunctuation"], [.closePunctuation]),
  (["pi", "initialpunctuation"], [.initialPunctuation]),
  (["pf", "finalpunctuation"], [.finalPunctuation]),
  (["po", "otherpunctuation"], [.otherPunctuation]),
  (["p", "punctuation", "punct"],
    [.connectorPunctuation, .dashPunctuation, .openPunctuation, .closePunctuation,
      .initialPunctuation, .finalPunctuation, .otherPunctuation]),
  (["sm", "mathsymbol"], [.mathSymbol]),
  (["sc", "currencysymbol"], [.currencySymbol]),
  (["sk", "modifiersymbol"], [.modifierSymbol]),
  (["so", "othersymbol"], [.otherSymbol]),
  (["s", "symbol"], [.mathSymbol, .currencySymbol, .modifierSymbol, .otherSymbol]),
  (["zs", "spaceseparator"], [.spaceSeparator]),
  (["zl", "lineseparator"], [.lineSeparator]),
  (["zp", "paragraphseparator"], [.paragraphSeparator]),
  (["z", "separator"], [.spaceSeparator, .lineSeparator, .paragraphSeparator]),
  (["cc", "control", "cntrl"], [.control]),
  (["cf", "format"], [.format]),
  (["co", "privateuse"], [.privateUse]),
  (["cn", "unassigned"], [.unassigned]),
  (["c", "other"], [.control, .format, .privateUse, .unassigned])]

/-- The names of the category of numbers that are no characters. -/
def surrogateNames : List String := ["cs", "surrogate"]

def letters : CharSet := categories
  [.uppercaseLetter, .lowercaseLetter, .titlecaseLetter, .modifierLetter, .otherLetter]

def marks : CharSet := categories [.nonspacingMark, .spacingMark, .enclosingMark]

open PropertyTable in
def alphabetic : CharSet :=
  .unions [letters, Category.letterNumber.chars, .ofRows otherAlphabetic]

/-- Letters, their marks, digits and what connects them: the characters of words. -/
def wordChars : CharSet := .unions [alphabetic, marks, Category.decimalNumber.chars,
  Category.connectorPunctuation.chars, .ofRows PropertyTable.joinControl]

def digits : CharSet := Category.decimalNumber.chars

def numeric : CharSet := categories [.decimalNumber, .letterNumber, .otherNumber]

def blanks : CharSet :=
  .ofRows ["9-D 20 85 A0 1680 2000-200A 2028-2029 202F 205F 3000"]

def lowercasing : CharSet :=
  CharSet.union ⟨loweredNumbers.map fun (n, _) => (n, n)⟩ (.single 'İ')

def uppercasing : CharSet :=
  CharSet.union ⟨loweredNumbers.map fun (_, n) => (n, n)⟩ (.ofRows PropertyTable.otherUppercasing)

def titlecasing : CharSet :=
  (uppercasing.diff (.ofRows PropertyTable.notTitlecased)).union (.ofRows PropertyTable.titleOnly)

open PropertyTable in
def identifierStart : CharSet :=
  CharSet.diff (.unions [letters, Category.letterNumber.chars, .ofRows otherIdentifierStart])
    (.ofRows notIdentifierStart)

open PropertyTable in
def identifierPart : CharSet := .unions [identifierStart, .ofRows otherIdentifierPart,
  categories [.nonspacingMark, .spacingMark, .decimalNumber, .connectorPunctuation]]

open PropertyTable in
def graphemeExtend : CharSet :=
  .unions [categories [.nonspacingMark, .enclosingMark], .ofRows otherExtending]

def binary? (name : String) : Option CharSet :=
  let table (rows : List String) := some (CharSet.ofRows rows)
  match name with
  | "ahex" | "asciihexdigit" => table ["30-39 41-46 61-66"]
  | "alpha" | "alphabetic" => some alphabetic
  | "bidic" | "bidicontrol" => table PropertyTable.bidiControl
  | "bidim" | "bidimirrored" => table PropertyTable.mirrored
  | "cased" => some ⟨casedIntervals⟩
  | "ci" | "caseignorable" => some ⟨caseIgnorableIntervals⟩
  | "cwcf" | "changeswhencasefolded" =>
    some ((lowercasing.diff (.ofRows PropertyTable.notFolded)).union
      (.ofRows PropertyTable.foldedOnly))
  | "cwcm" | "changeswhencasemapped" => some (.unions [lowercasing, uppercasing, titlecasing])
  | "cwl" | "changeswhenlowercased" => some lowercasing
  | "cwt" | "changeswhentitlecased" => some titlecasing
  | "cwu" | "changeswhenuppercased" => some uppercasing
  | "dash" =>
    some (Category.dashPunctuation.chars.union (.ofRows PropertyTable.otherDash))
  | "dep" | "deprecated" => table PropertyTable.deprecated
  | "di" | "defaultignorablecodepoint" => table PropertyTable.ignorable
  | "dia" | "diacritic" => table PropertyTable.diacritic
  | "ebase" | "emojimodifierbase" => table PropertyTable.emojiModifierBase
  | "ecomp" | "emojicomponent" => table PropertyTable.emojiComponent
  | "emod" | "emojimodifier" => table PropertyTable.emojiModifier
  | "emoji" => table PropertyTable.emoji
  | "epres" | "emojipresentation" => table PropertyTable.emojiPresentation
  | "ext" | "extender" => table PropertyTable.extender
  | "extpict" | "extendedpictographic" => table PropertyTable.pictographic
  | "grbase" | "graphemebase" =>
    some (CharSet.compl (.unions [graphemeExtend, .ofRows PropertyTable.notBase, categories
      [.control, .format, .privateUse, .unassigned, .lineSeparator, .paragraphSeparator]]))
  | "grext" | "graphemeextend" => some graphemeExtend
  | "hex" | "hexdigit" => table PropertyTable.hexDigit
  | "idc" | "idcontinue" => some identifierPart
  | "ideo" | "ideographic" => table PropertyTable.ideographic
  | "ids" | "idstart" => some identifierStart
  | "idsb" | "idsbinaryoperator" => table PropertyTable.binaryComposition
  | "idst" | "idstrinaryoperator" => table PropertyTable.trinaryComposition
  | "joinc" | "joincontrol" => table PropertyTable.joinControl
  | "loe" | "logicalorderexception" => table PropertyTable.writtenBefore
  | "lower" | "lowercase" =>
    some (Category.lowercaseLetter.chars.union (.ofRows PropertyTable.otherLowercase))
  | "math" => some (Category.mathSymbol.chars.union (.ofRows PropertyTable.otherMath))
  | "nchar" | "noncharactercodepoint" => table PropertyTable.nonCharacter
  | "patsyn" | "patternsyntax" => table PropertyTable.patternMark
  | "patws" | "patternwhitespace" => table PropertyTable.patternSpace
  | "pcm" | "prependedconcatenationmark" => table PropertyTable.prependedMark
  | "qmark" | "quotationmark" => table PropertyTable.quotationMark
  | "radical" => table PropertyTable.radical
  | "ri" | "regionalindicator" => table PropertyTable.regionalIndicator
  | "sd" | "softdotted" => table PropertyTable.softDotted
  | "sterm" | "sentenceterminal" => table PropertyTable.sentenceEnd
  | "term" | "terminalpunctuation" => table PropertyTable.phraseEnd
  | "uideo" | "unifiedideograph" => table PropertyTable.unifiedIdeograph
  | "upper" | "uppercase" =>
    some (Category.uppercaseLetter.chars.union (.ofRows PropertyTable.otherUppercase))
  | "vs" | "variationselector" => table PropertyTable.variationSelector
  | "space" | "wspace" | "whitespace" => some blanks
  | "xidc" | "xidcontinue" => some (identifierPart.diff (.ofRows PropertyTable.notClosedPart))
  | "xids" | "xidstart" => some (identifierStart.diff (.ofRows PropertyTable.notClosedStart))
  | _ => none

def category? (name : String) : Option (Except PropertyProblem CharSet) :=
  if name = "any" then some (.ok .all)
  else if name = "ascii" then some (.ok (.range '\x00' '\x7f'))
  else if name = "assigned" then some (.ok Category.unassigned.chars.compl)
  else if name ∈ surrogateNames then some (.error .unknownValue)
  else (categoryNames.find? (name ∈ ·.1)).map fun (_, cs) => .ok (categories cs)

def olderCodes : List (String × String) := [("qaac", "copt"), ("qaai", "zinh")]

/-- Names of scripts to which no character belongs. -/
def emptyScripts : List String := ["zzzz", "unknown", "hrkt", "katakanaorhiragana"]

def script? (name : String) : Option Script :=
  let name := (olderCodes.lookup name).getD name
  Script.all.find? fun s =>
    plainName s.code.toList = name.toList ∨ plainName s.name.toList = name.toList

def ofScript? (name : String) : Option (Except PropertyProblem CharSet) :=
  if name ∈ emptyScripts then some (.error .unknownValue)
  else (script? name).map fun s => .ok s.chars

def usedWith (s : Script) : CharSet :=
  let rest := s.chars.diff (.unions (Script.shared.map fun (_, rows) => .ofRows rows))
  let shared := Script.shared.filter fun (codes, _) => s.code.toList ∈ pieces ' ' codes.toList
  .unions (rest :: shared.map fun (_, rows) => .ofRows rows)

def otherNames : List String := [
  "age", "bc", "bidiclass", "blk", "block", "bmg", "bidimirroringglyph", "bpb",
  "bidipairedbracket", "bpt", "bidipairedbrackettype", "ccc", "canonicalcombiningclass", "ce",
  "compositionexclusion", "cf", "casefolding", "compex", "fullcompositionexclusion", "cwkcf",
  "changeswhennfkccasefolded", "dm", "decompositionmapping", "dt", "decompositiontype", "ea",
  "eastasianwidth", "equideo", "equivalentunifiedideograph", "fcnfkc", "fcnfkcclosure", "gcb",
  "graphemeclusterbreak", "grlink", "graphemelink", "hst", "hangulsyllabletype", "hyphen", "inpc",
  "indicpositionalcategory", "insc", "indicsyllabiccategory", "isc", "isocomment", "jg",
  "joininggroup", "jsn", "jamoshortname", "jt", "joiningtype", "lb", "linebreak", "lc",
  "lowercasemapping", "na", "name", "na1", "unicode1name", "namealias", "nfcqc",
  "nfcquickcheck", "nfdqc", "nfdquickcheck", "nfkccf", "nfkccasefold", "nfkcqc",
  "nfkcquickcheck", "nfkdqc", "nfkdquickcheck", "nt", "numerictype", "nv", "numericvalue",
  "oalpha", "otheralphabetic", "odi", "otherdefaultignorablecodepoint", "ogrext",
  "othergraphemeextend", "oidc", "otheridcontinue", "oids", "otheridstart", "olower",
  "otherlowercase", "omath", "othermath", "oupper", "otheruppercase", "sb", "sentencebreak", "scf",
  "simplecasefolding", "sfc", "slc", "simplelowercasemapping", "stc", "simpletitlecasemapping",
  "suc", "simpleuppercasemapping", "tc", "titlecasemapping", "uc", "uppercasemapping", "vo",
  "verticalorientation", "wb", "wordbreak"]

/-- Names that are codes of categories in the first place. -/
def codesFirst : List String := ["cf", "sc", "lc"]

def named (name : Text) : Except PropertyProblem CharSet :=
  let plain := String.ofList (plainName name)
  let isOther := plain ∈ otherNames ∨ plain ∈ ["gc", "generalcategory", "script", "scx",
    "scriptextensions"]
  if plain ∉ codesFirst ∧ isOther then .error .unknownProperty
  else match (if plain ∈ codesFirst then none else binary? plain) with
    | some s => .ok s
    | none => ((category? plain).or (ofScript? plain)).getD (.error .unknownProperty)

def withValue (name value : Text) : Except PropertyProblem CharSet :=
  let plain := String.ofList (plainName name)
  let value := String.ofList (plainName value)
  if plain ∈ ["gc", "generalcategory"] then (category? value).getD (.error .unknownValue)
  else if plain ∈ ["sc", "script"] then (ofScript? value).getD (.error .unknownValue)
  else if plain ∈ ["scx", "scriptextensions"] then
    match script? value with
    | some s => .ok (usedWith s)
    | none => .error .unknownValue
  else if plain ∈ otherNames ∨ (binary? plain).isSome then .error .unknownValue
  else .error .unknownProperty

end Property
end PageQuery.Text
