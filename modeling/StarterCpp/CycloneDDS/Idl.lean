import Mathlib.Data.List.Nodup
import StarterCpp.Library.Text

/-!
# IDL schemas

A schema is a list of files, each in a module or in none, that declare
enumerations and structs.  A struct may use a struct that was declared before it.
Types are written as the files write them, without a qualifying module; two modules
may give a name to different types.
-/

namespace StarterCpp
namespace CycloneDDS

open Text

/-- A name or a piece of source text. -/
abbrev Name := List UInt8

/-- The integer types. -/
inductive IntegerType
  | short
  | unsignedShort
  | long
  | unsignedLong
  | longLong
  | unsignedLongLong
  | octet
  deriving DecidableEq, Repr

namespace IntegerType

def text : IntegerType → Name
  | .short => ascii "short"
  | .unsignedShort => ascii "unsigned short"
  | .long => ascii "long"
  | .unsignedLong => ascii "unsigned long"
  | .longLong => ascii "long long"
  | .unsignedLongLong => ascii "unsigned long long"
  | .octet => ascii "octet"

/-- The number of the values of a type. -/
def count : IntegerType → ℤ
  | .short | .unsignedShort => 2 ^ 16
  | .long | .unsignedLong => 2 ^ 32
  | .longLong | .unsignedLongLong => 2 ^ 64
  | .octet => 2 ^ 8

/-- The smallest value of a type. -/
def least : IntegerType → ℤ
  | .short => -2 ^ 15
  | .long => -2 ^ 31
  | .longLong => -2 ^ 63
  | .unsignedShort | .unsignedLong | .unsignedLongLong | .octet => 0

/-- The values of a type. -/
def Number (kind : IntegerType) : Type :=
  {number : ℤ // kind.least ≤ number ∧ number < kind.least + kind.count}

instance (kind : IntegerType) : DecidableEq kind.Number :=
  inferInstanceAs
    (DecidableEq
      {number : ℤ // kind.least ≤ number ∧ number < kind.least + kind.count})

theorem count_pos (kind : IntegerType) : 0 < kind.count := by
  cases kind <;> decide

/-- The value of a type that a conversion makes of an integer. -/
def convert (kind : IntegerType) (number : ℤ) : kind.Number :=
  ⟨kind.least + (number - kind.least) % kind.count, by
    have nonneg := Int.emod_nonneg (number - kind.least) kind.count_pos.ne'
    have below := Int.emod_lt_of_pos (number - kind.least) kind.count_pos
    omega⟩

/-- A value of the type is converted to itself. -/
@[simp] theorem convert_val
    {kind : IntegerType}
    (number : kind.Number) :
    kind.convert number.val = number := by
  apply Subtype.ext
  have small : (number.val - kind.least) % kind.count =
      number.val - kind.least := by
    apply Int.emod_eq_of_lt
    · linarith [number.property.1]
    · linarith [number.property.2]
  simp only [convert, small]
  omega

end IntegerType

/-- The types that a field can have. -/
inductive IdlType
  | boolean
  | integer (kind : IntegerType)
  | string (bound : Option ℕ)
  | enumeration (scope name : Name)
  | struct (scope name : Name)
  | sequence (element : IdlType) (bound : Option ℕ)
  deriving DecidableEq, Repr

namespace IdlType

/-- The bound of a bounded string or sequence, after what comes before it. -/
def boundText (separator : Name) : Option ℕ → Name
  | none => []
  | some bound => separator ++ decimalNat bound

/-- A type as it is written. -/
def text : IdlType → Name
  | .boolean => ascii "boolean"
  | .integer kind => kind.text
  | .string none => ascii "string"
  | .string (some bound) => ascii "string<" ++ decimalNat bound ++ ascii ">"
  | .enumeration _ name | .struct _ name => name
  | .sequence element bound =>
      ascii "sequence<" ++ element.text ++ boundText (ascii ", ") bound ++
        ascii ">"

/-- Whether a type is a sequence. -/
def isSequence : IdlType → Bool
  | .sequence _ _ => true
  | .boolean | .integer _ | .string _ | .enumeration _ _ | .struct _ _ => false

/-- The element type of a sequence, and any other type itself. -/
def base : IdlType → IdlType
  | .sequence element _ => element
  | type => type

end IdlType

/-- A field of a struct. -/
structure IdlField where
  type : IdlType
  name : Name
  deriving DecidableEq, Repr

/-- A struct, with the module of its file. -/
structure IdlStruct where
  module : Name
  name : Name
  fields : List IdlField
  deriving DecidableEq, Repr

/-- The name of a struct, after that of its module. -/
def IdlStruct.scoped (struct : IdlStruct) : Name × Name :=
  (struct.module, struct.name)

/-- A file; a file without a module has the empty module. -/
structure IdlFile where
  module : Name
  enums : List Name
  structs : List (Name × List IdlField)

namespace IdlFile

/-- The structs of some files, in the order of the files. -/
def allStructs (files : List IdlFile) : List IdlStruct :=
  files.flatMap fun file =>
    file.structs.map fun struct => ⟨file.module, struct.1, struct.2⟩

/-- The enumerations of some files, with their modules. -/
def allEnums (files : List IdlFile) : List (Name × Name) :=
  files.flatMap fun file => file.enums.map fun name => (file.module, name)

end IdlFile

def isLetter (byte : UInt8) : Bool :=
  (65 ≤ byte && byte ≤ 90) || (97 ≤ byte && byte ≤ 122)

/-- Letters, digits and the underscore. -/
def isWord (byte : UInt8) : Bool :=
  (48 ≤ byte && byte ≤ 57) || (65 ≤ byte && byte ≤ 90) || byte = 95 ||
    (97 ≤ byte && byte ≤ 122)

/-- The types whose name is one word. -/
def keywords : List Name :=
  [ascii "boolean", ascii "short", ascii "long", ascii "octet", ascii "string",
    ascii "float", ascii "double"]

/-- A name that can be declared.  It starts with a letter: an underscore in front of a
name only escapes it. -/
structure IsIdentifier (name : Name) : Prop where
  head : name.head?.any isLetter = true
  word : ∀ byte ∈ name, isWord byte = true
  free : name ∉ keywords

instance (name : Name) : Decidable (IsIdentifier name) :=
  decidable_of_iff
    (name.head?.any isLetter = true ∧ name.all isWord = true ∧
      keywords.contains name = false)
    ⟨fun ⟨head, word, free⟩ =>
        ⟨head, List.all_eq_true.mp word, by simpa using free⟩,
      fun ⟨head, word, free⟩ =>
        ⟨head, List.all_eq_true.mpr word, by simpa using free⟩⟩

theorem IsIdentifier.nonempty
    {name : Name}
    (identifier : IsIdentifier name) :
    name ≠ [] := by
  rintro rfl
  cases identifier.head

/-- The types that the fields of a struct can have: those they use have been
declared before, in the module of the struct or in none. -/
def IdlType.Usable
    (files : List IdlFile)
    (position : Name × Name → ℕ)
    (user : IdlStruct) : IdlType → Prop
  | .boolean | .integer _ | .string _ => True
  | .enumeration scope name =>
      (scope, name) ∈ IdlFile.allEnums files ∧ (scope = user.module ∨ scope = [])
  | .struct scope name =>
      (scope, name) ∈ (IdlFile.allStructs files).map IdlStruct.scoped ∧
        (scope = user.module ∨ scope = []) ∧
          position (scope, name) < position user.scoped
  | .sequence element _ => element.Usable files position user

instance decidableUsable
    (files : List IdlFile)
    (position : Name × Name → ℕ)
    (user : IdlStruct) : ∀ type : IdlType, Decidable (type.Usable files position user)
  | .boolean | .integer _ | .string _ => .isTrue trivial
  | .enumeration _ _ => inferInstanceAs (Decidable (_ ∧ _))
  | .struct _ _ => inferInstanceAs (Decidable (_ ∧ _))
  | .sequence element _ => decidableUsable files position user element

/-- Files that declare what they use, with the position of each struct in the
order of declaration.  A name is declared once in a module, and outside of the
modules, where the modules are declared too; types of different modules may share
a name. -/
structure Schema where
  files : List IdlFile
  position : Name × Name → ℕ
  identifiers : ∀ name,
    name ∈ (IdlFile.allEnums files).map Prod.snd ++
      (IdlFile.allStructs files).map IdlStruct.name → IsIdentifier name
  moduleIdentifiers : ∀ file ∈ files, file.module = [] ∨ IsIdentifier file.module
  fieldIdentifiers : ∀ struct ∈ IdlFile.allStructs files, ∀ field ∈ struct.fields,
    IsIdentifier field.name
  distinct : (IdlFile.allEnums files ++
    (IdlFile.allStructs files).map IdlStruct.scoped).Nodup
  modulesDistinct : ∀ file ∈ files, ([], file.module) ∉ IdlFile.allEnums files ++
    (IdlFile.allStructs files).map IdlStruct.scoped
  fieldsDistinct : ∀ struct ∈ IdlFile.allStructs files,
    (struct.fields.map IdlField.name).Nodup
  usable : ∀ struct ∈ IdlFile.allStructs files, ∀ field ∈ struct.fields,
    field.type.Usable files position struct

namespace Schema

def structs (schema : Schema) : List IdlStruct :=
  IdlFile.allStructs schema.files

def enums (schema : Schema) : List (Name × Name) :=
  IdlFile.allEnums schema.files

def enumNames (schema : Schema) : List Name :=
  schema.enums.map Prod.snd

def structNames (schema : Schema) : List Name :=
  schema.structs.map IdlStruct.name

end Schema

/-! ## Values -/

/-- A value of a C++ class that is generated for a type. -/
inductive Value
  | boolean (value : Bool)
  | integer (kind : IntegerType) (number : kind.Number)
  | string (text : Name)
  | enumerator (number : IntegerType.long.Number)
  | sequence (elements : List Value)
  | struct (members : List (Name × Value))

/-- The values of a type.  Bounds are not kept by the classes. -/
inductive HasType (structs : List IdlStruct) : IdlType → Value → Prop
  | boolean (value : Bool) : HasType structs .boolean (.boolean value)
  | integer (kind : IntegerType) (number : kind.Number) :
      HasType structs (.integer kind) (.integer kind number)
  | string (bound : Option ℕ) (text : Name) :
      HasType structs (.string bound) (.string text)
  | enumerator (scope name : Name) (number : IntegerType.long.Number) :
      HasType structs (.enumeration scope name) (.enumerator number)
  | sequence
      {element : IdlType}
      {elements : List Value}
      (bound : Option ℕ)
      (typed : ∀ value ∈ elements, HasType structs element value) :
      HasType structs (.sequence element bound) (.sequence elements)
  | struct
      {struct : IdlStruct}
      {values : List Value}
      (declared : struct ∈ structs)
      (typed : List.Forall₂ (fun field value => HasType structs field.type value)
        struct.fields values) :
      HasType structs (.struct struct.module struct.name)
        (.struct ((struct.fields.map IdlField.name).zip values))

/-- An `unsigned long long` from `2 ^ 63` on occurs in a value. -/
inductive Oversized : Value → Prop
  | integer
      {number : IntegerType.unsignedLongLong.Number}
      (large : 2 ^ 63 ≤ number.val) :
      Oversized (.integer .unsignedLongLong number)
  | element
      {elements : List Value}
      {value : Value}
      (member : value ∈ elements)
      (oversized : Oversized value) :
      Oversized (.sequence elements)
  | member
      {members : List (Name × Value)}
      {name : Name}
      {value : Value}
      (member : (name, value) ∈ members)
      (oversized : Oversized value) :
      Oversized (.struct members)

namespace Oversized

@[simp] theorem not_boolean (value : Bool) : ¬Oversized (.boolean value) := by
  intro oversized
  cases oversized

@[simp] theorem not_string (text : Name) : ¬Oversized (.string text) := by
  intro oversized
  cases oversized

@[simp] theorem not_enumerator (number : IntegerType.long.Number) :
    ¬Oversized (.enumerator number) := by
  intro oversized
  cases oversized

@[simp] theorem integer_iff
    {kind : IntegerType}
    {number : kind.Number} :
    Oversized (.integer kind number) ↔
      kind = .unsignedLongLong ∧ 2 ^ 63 ≤ number.val := by
  constructor
  · intro oversized
    cases oversized with
    | integer large => exact ⟨rfl, large⟩
  · rintro ⟨rfl, large⟩
    exact .integer large

@[simp] theorem sequence_iff {elements : List Value} :
    Oversized (.sequence elements) ↔ ∃ value ∈ elements, Oversized value := by
  constructor
  · intro oversized
    cases oversized with
    | element member oversized => exact ⟨_, member, oversized⟩
  · rintro ⟨value, member, oversized⟩
    exact .element member oversized

@[simp] theorem struct_iff {members : List (Name × Value)} :
    Oversized (.struct members) ↔ ∃ entry ∈ members, Oversized entry.2 := by
  constructor
  · intro oversized
    cases oversized with
    | member member oversized => exact ⟨_, member, oversized⟩
  · rintro ⟨⟨name, value⟩, member, oversized⟩
    exact .member member oversized

end Oversized

end CycloneDDS
end StarterCpp
