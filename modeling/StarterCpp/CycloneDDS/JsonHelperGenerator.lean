import StarterCpp.CycloneDDS.GeneratedCode
import StarterCpp.Library.DependencyOrder

/-!
# The generator of the JSON helpers

`generate_dds_json_helpers.py` reads the types of the fields as text.  It tells
them apart with regular expressions and tables, emits a line of `toJson` and one
of `fromJson` for each field, and puts the structs in dependency order.  A set of
names is a list here, and the order in which a set is iterated is a parameter.
-/

namespace StarterCpp
namespace CycloneDDS

open Text

/-! ## Tables -/

def idlTypeMap : List (Name × Accessor) :=
  [(ascii "boolean", .b), (ascii "short", .i), (ascii "unsigned short", .i),
    (ascii "long", .i), (ascii "unsigned long", .i), (ascii "long long", .i),
    (ascii "unsigned long long", .i), (ascii "float", .d), (ascii "double", .d),
    (ascii "string", .s), (ascii "octet", .i)]

def castTypes : List (Name × IntegerType) :=
  [(ascii "long", .long), (ascii "unsigned long", .unsignedLong),
    (ascii "short", .short), (ascii "unsigned short", .unsignedShort)]

/-! ## Regular expressions -/

/-- `\s` -/
def isSpace (byte : UInt8) : Bool :=
  (9 ≤ byte && byte ≤ 13) || (28 ≤ byte && byte ≤ 32)

/-- `\d` -/
def isDigit (byte : UInt8) : Bool :=
  48 ≤ byte && byte ≤ 57

/-- What follows `\d+>` at the start of a text. -/
def afterBound (text : Name) : Option Name :=
  match text.takeWhile isDigit, text.dropWhile isDigit with
  | _ :: _, 62 :: rest => some rest
  | _, _ => none

/-- Whether `(?:,\s*\d+)?>` matches at the start of a text. -/
def closes : Name → Bool
  | 62 :: _ => true
  | 44 :: rest => (afterBound (rest.dropWhile isSpace)).isSome
  | _ => false

/-- The shortest match of `(.+?)` before the end of a sequence. -/
def shortestGroup : Name → Option Name
  | [] => none
  | byte :: rest =>
      if byte = newline then none
      else if closes rest then some [byte]
      else (shortestGroup rest).map (byte :: ·)

/-- The group of `RE_SEQUENCE.match`. -/
def reSequence (text : Name) : Option Name :=
  (text.dropPrefix? (ascii "sequence<")).bind shortestGroup

/-- What follows `string<\d+>` at the start of a text. -/
def afterStringBound (text : Name) : Option Name :=
  (text.dropPrefix? (ascii "string<")).bind afterBound

/-- `RE_STRING_BOUND.sub("string", text)`, after some characters of the last match
are skipped. -/
def reStringBoundSub : ℕ → Name → Name
  | _, [] => []
  | skipped + 1, _ :: rest => reStringBoundSub skipped rest
  | 0, byte :: rest =>
      match afterStringBound (byte :: rest) with
      | some after =>
          ascii "string" ++ reStringBoundSub (rest.length - after.length) rest
      | none => byte :: reStringBoundSub 0 rest

/-- `text.strip()` -/
def strip (text : Name) : Name :=
  ((text.dropWhile isSpace).reverse.dropWhile isSpace).reverse

/-- `text.split("::")` -/
def splitScopes : Name → List Name
  | [] => [[]]
  | [byte] => [[byte]]
  | first :: second :: rest =>
      if first = 58 ∧ second = 58 then [] :: splitScopes rest
      else
        match splitScopes (second :: rest) with
        | [] => [[first]]
        | head :: tail => (first :: head) :: tail

/-! ## Parsed files -/

/-- What `parse_idl` returns for a file. -/
structure ParsedFile where
  module : Name
  enums : List Name
  structs : List (Name × List (Name × Name))

/-- A field as it is parsed: bounded strings are normalised. -/
def IdlField.parsed (field : IdlField) : Name × Name :=
  (reStringBoundSub 0 field.type.text, field.name)

/-- A file as it is parsed. -/
def IdlFile.parsed (file : IdlFile) : ParsedFile where
  module := file.module
  enums := file.enums
  structs := file.structs.map fun struct => (struct.1, struct.2.map IdlField.parsed)

/-! ## Types -/

def isSequence (idlType : Name) : Bool :=
  (reSequence idlType).isSome

def sequenceElementType (idlType : Name) : Name :=
  match reSequence idlType with
  | some group => strip group
  | none => idlType

/-- The kinds of types. -/
inductive TypeKind
  | primitive
  | enum
  | struct
  | sequence
  | unknown
  deriving DecidableEq, Repr

def classifyType (idlType : Name) (enums structs : List Name) : TypeKind :=
  if isSequence idlType then .sequence
  else if enums.contains idlType then .enum
  else if structs.contains idlType then .struct
  else if (idlTypeMap.lookup idlType).isSome then .primitive
  else if structs.contains ((splitScopes idlType).getLastD []) then .struct
  else .unknown

def qualifiedCpp (name module : Name) : CppName :=
  if 1 < (splitScopes name).length then splitScopes name
  else cppName module name

/-! ## Lines of `toJson` -/

def genToJsonRhs (idlType : Name) (enums allStructs : List Name) :
    Option ToJsonRhs :=
  match classifyType idlType enums allStructs with
  | .enum => some .castInt
  | .struct => some .call
  | .sequence => none
  | .primitive | .unknown => some .copy

def genToJsonSequence (idlType fieldName : Name) (enums allStructs : List Name) :
    ToJsonLine :=
  match classifyType (sequenceElementType idlType) enums allStructs with
  | .struct => .loop fieldName .call
  | .enum => .loop fieldName .castInt
  | .primitive | .sequence | .unknown => .loop fieldName .copy

/-! ## Lines of `fromJson` -/

def genFromJsonExpr (idlType : Name) (enums allStructs : List Name) (module : Name) :
    Option FromJsonExpr :=
  match classifyType idlType enums allStructs with
  | .enum => some (.castEnum (qualifiedCpp idlType module))
  | .struct => some (.call (qualifiedCpp idlType module))
  | .sequence => none
  | .primitive | .unknown =>
      let accessor := (idlTypeMap.lookup idlType).getD .s
      match castTypes.lookup idlType with
      | some kind => some (.cast kind accessor)
      | none => some (.access accessor)

def genFromJsonSequence
    (idlType fieldName : Name)
    (enums allStructs : List Name)
    (module : Name) : FromJsonLine :=
  let elem := sequenceElementType idlType
  match classifyType elem enums allStructs with
  | .struct => .loop fieldName (.call (qualifiedCpp elem module))
  | .enum => .loop fieldName (.castEnum (qualifiedCpp elem module))
  | .primitive | .sequence | .unknown =>
      .loop fieldName (.access ((idlTypeMap.lookup elem).getD .s))

/-! ## The order of the structs -/

/-- The orders in which the sets of names that are kept under some names are
iterated. -/
structure SetOrder where
  iterate : Name → List Name → List Name
  mem_iterate : ∀ key names name, name ∈ iterate key names ↔ name ∈ names

/-- A struct of the parsed files. -/
structure StructInfo where
  module : Name
  name : Name
  fields : List (Name × Name)
  deriving DecidableEq, Repr

/-- The structs of the parsed files, in the order of the files. -/
def structInfos (allData : List ParsedFile) : List StructInfo :=
  allData.flatMap fun file =>
    file.structs.map fun struct => ⟨file.module, struct.1, struct.2⟩

/-- The structs that the fields of a struct use. -/
def fieldDeps (allStructs : List Name) (info : StructInfo) : List Name :=
  (info.fields.map fun field =>
    (splitScopes (sequenceElementType field.1)).getLastD []).filter fun base =>
      allStructs.contains base && base ≠ info.name

/-- `struct_info[name]`: a later struct of the same name replaces an earlier one. -/
def structInfo (infos : List StructInfo) (name : Name) : Option StructInfo :=
  infos.reverse.find? fun info => info.name = name

def topoSortStructs
    (order : SetOrder)
    (allData : List ParsedFile)
    (allStructs : List Name) : List StructInfo :=
  let infos := structInfos allData
  let names := infos.map StructInfo.name
  let deps := fun name =>
    match structInfo infos name with
    | some info => order.iterate name (fieldDeps allStructs info)
    | none => []
  (DepthFirst.sort deps names.length names).filterMap (structInfo infos)

/-! ## The header -/

/-- The line that `generate_header` puts into `toJson` for a field. -/
def toJsonLine (allEnums allStructs : List Name) (field : Name × Name) : ToJsonLine :=
  if isSequence field.1 then genToJsonSequence field.1 field.2 allEnums allStructs
  else .assign field.2 (genToJsonRhs field.1 allEnums allStructs)

/-- The line that `generate_header` puts into `fromJson` for a field. -/
def fromJsonLine
    (allEnums allStructs : List Name)
    (module : Name)
    (field : Name × Name) : FromJsonLine :=
  if isSequence field.1 then
    genFromJsonSequence field.1 field.2 allEnums allStructs module
  else .set field.2 (genFromJsonExpr field.1 allEnums allStructs module)

/-- The two functions of a struct. -/
def generateHelper (allEnums allStructs : List Name) (info : StructInfo) :
    Helper where
  name := cppName info.module info.name
  toJson := info.fields.map (toJsonLine allEnums allStructs)
  fromJson := info.fields.map (fromJsonLine allEnums allStructs info.module)

def generateHeader (order : SetOrder) (allData : List ParsedFile) : List Helper :=
  let allEnums := allData.flatMap ParsedFile.enums
  let allStructs := allData.flatMap fun file => file.structs.map Prod.fst
  (topoSortStructs order allData allStructs).map
    (generateHelper allEnums allStructs)

example : sequenceElementType (ascii "sequence< long, 10>") = ascii "long" := by
  decide

example : reStringBoundSub 0 (ascii "sequence<string<64>>") =
    ascii "sequence<string>" := by
  decide

/-- Reading what a header's functions have written for a value of a struct. -/
def Schema.roundTrip
    (schema : Schema)
    (order : SetOrder)
    (struct : IdlStruct)
    (value : Value) : Option Value := do
  let declared ← compileHeader (schema.structs.map IdlStruct.cppClass)
    (generateHeader order (schema.files.map IdlFile.parsed))
  let functions ← functionsOf declared (cppName struct.module struct.name)
  functions.fromJson (← functions.toJson value)

end CycloneDDS
end StarterCpp
