import StarterCpp.CycloneDDS.JsonHelperGenerator
import StarterCpp.Library.Regex

/-!
# The parser of IDL files

`generate_dds_json_helpers.py` finds the module, the enumerations, the structs and
their fields with regular expressions, after the comments are removed.  The text of a
file is what `read_text` returns, in ASCII and with `\n` at the end of a line.
-/

namespace StarterCpp
namespace CycloneDDS

open Text

/-! ## Patterns -/

/-- `\s` -/
def space : Regex UInt8 :=
  .symbol isSpace

/-- `\w` -/
def word : Regex UInt8 :=
  .symbol isWord

/-- A byte as it is. -/
def byte (value : UInt8) : Regex UInt8 :=
  .symbol fun head => head = value

/-- Any byte but one. -/
def otherThan (value : UInt8) : Regex UInt8 :=
  .symbol fun head => head ≠ value

def openBrace : UInt8 := 123

def closeBrace : UInt8 := 125

/-- `RE_MODULE` -/
def reModule : Regex UInt8 :=
  .concat [.literal (ascii "module"), .plus space, .group 1 (.plus word)]

/-- A keyword, a name, and a body in braces. -/
def reDeclaration (keyword : Name) : Regex UInt8 :=
  .concat [.literal keyword, .plus space, .group 1 (.plus word), .star space,
    byte openBrace, .group 2 (.plus (otherThan closeBrace)), byte closeBrace]

/-- `RE_ENUM` -/
def reEnum : Regex UInt8 :=
  reDeclaration (ascii "enum")

/-- `@topic\s+` -/
def reTopic : Regex UInt8 :=
  .concat [.literal (ascii "@topic"), .plus space]

/-- `RE_STRUCT` -/
def reStruct : Regex UInt8 :=
  .append (.optional reTopic) (reDeclaration (ascii "struct"))

/-- `\s*\([^)]*\)` -/
def reArguments : Regex UInt8 :=
  .concat [.star space, .literal (ascii "("), .star (otherThan 41),
    .literal (ascii ")")]

/-- `@\w+(?:\s*\([^)]*\))?\s+` -/
def reTag : Regex UInt8 :=
  .concat [.literal (ascii "@"), .plus word, .optional reArguments, .plus space]

/-- `[\w\s<>,]` -/
def isTypeByte (head : UInt8) : Bool :=
  isWord head || isSpace head || head = 60 || head = 62 || head = 44

/-- `RE_FIELD`, after its annotations -/
def reTypeAndName : Regex UInt8 :=
  .concat [.group 1 (.lazyPlus (.symbol isTypeByte)), .plus space,
    .group 2 (.plus word), .star space, .literal (ascii ";")]

/-- `RE_FIELD` -/
def reField : Regex UInt8 :=
  .append (.star reTag) reTypeAndName

/-- `/\*.*?\*/` -/
def reBlockComment : Regex UInt8 :=
  .concat [.literal (ascii "/*"), .lazyStar (.symbol fun _ => true),
    .literal (ascii "*/")]

/-- `//[^\n]*` -/
def reLineComment : Regex UInt8 :=
  .append (.literal (ascii "//")) (.star (otherThan newline))

/-! ## Parsing -/

def stripComments (text : Name) : Name :=
  reLineComment.replaceAll [] 0 (reBlockComment.replaceAll [] 0 text)

/-- A field of a struct, from the groups of its match. -/
def parseField (groups : Regex.Captures UInt8) : Name × Name :=
  (reStringBoundSub 0 (strip (groups 1)), groups 2)

/-- A struct, from the groups of its match. -/
def parseStruct (groups : Regex.Captures UInt8) : Name × List (Name × Name) :=
  (groups 1, (reField.findAll 0 (groups 2)).map parseField)

def parseIdl (source : Name) : ParsedFile :=
  let text := stripComments source
  { module :=
      match reModule.search text with
      | some (groups, _) => groups 1
      | none => []
    enums := (reEnum.findAll 0 text).map fun groups => groups 1
    structs := (reStruct.findAll 0 text).map parseStruct }

end CycloneDDS
end StarterCpp
