import StarterCpp.CycloneDDS.TypeText

/-!
# The emitted lines

For each type of a field, the line of `toJson` and the line of `fromJson` that the
generator emits.  The elements of a sequence are written and read as fields of
their type are, but for the casts.  A field that is a sequence of sequences is read
as a string.
-/

namespace StarterCpp
namespace CycloneDDS

open Text

/-! ## Expressions -/

namespace IdlType

/-- A struct that a type uses, in a field or in the elements of a sequence, does not
have the name of an enumeration. -/
def IsApart (enums : List Name) : IdlType → Prop
  | .boolean | .integer _ | .string _ | .enumeration _ _ => True
  | .struct _ name => name ∉ enums
  | .sequence element _ => element.IsApart enums

/-- The kind of a type. -/
def kind : IdlType → TypeKind
  | .boolean | .integer _ | .string _ => .primitive
  | .enumeration _ _ => .enum
  | .struct _ _ => .struct
  | .sequence _ _ => .sequence

/-- How a value of a type is written. -/
def writer : IdlType → ToJsonRhs
  | .enumeration _ _ => .castInt
  | .struct _ _ => .call
  | .boolean | .integer _ | .string _ | .sequence _ _ => .copy

/-- How an element of a type is read by a struct of a module. -/
def elementReader (module : Name) : IdlType → FromJsonExpr
  | .boolean => .access .b
  | .integer _ => .access .i
  | .string _ | .sequence _ _ => .access .s
  | .enumeration _ name => .castEnum (cppName module name)
  | .struct _ name => .call (cppName module name)

/-- How a field of a type is read by a struct of a module. -/
def reader (module : Name) : IdlType → FromJsonExpr
  | .integer kind =>
      match kind with
      | .short | .unsignedShort | .long | .unsignedLong => .cast kind .i
      | .longLong | .unsignedLongLong | .octet => .access .i
  | type => type.elementReader module

end IdlType

namespace IdlField

/-- How a field is written. -/
def toJsonLine (field : IdlField) : ToJsonLine :=
  match field.type with
  | .sequence element _ => .loop field.name element.writer
  | type => .assign field.name (some type.writer)

/-- How a field of a struct of a module is read. -/
def fromJsonLine (module : Name) (field : IdlField) : FromJsonLine :=
  match field.type with
  | .sequence element _ => .loop field.name (element.elementReader module)
  | type => .set field.name (some (type.reader module))

end IdlField

/-- A type whose base is a sequence is a sequence of sequences. -/
theorem exists_nested
    {type : IdlType}
    (nested : type.base.isSequence = true) :
    ∃ element bound outerBound,
      type = (IdlType.sequence element bound).sequence outerBound := by
  cases type with
  | boolean | integer | string | enumeration | struct => cases nested
  | sequence element outerBound =>
      cases element with
      | boolean | integer | string | enumeration | struct => cases nested
      | sequence element bound => exact ⟨element, bound, outerBound, rfl⟩

section Names

variable {enums structs : List Name}
variable (names : TypeNames enums structs)

include names

/-! ## Kinds -/

/-- The text of a built-in type is not the name of a declared one. -/
theorem TypeNames.not_mem_of_builtIn
    {text : Name}
    (builtIn : text ∈ keywords ∨ 32 ∈ text) :
    text ∉ enums ∧ text ∉ structs := by
  rw [← not_or, ← List.mem_append]
  intro member
  have identifier := names.identifiers text member
  rcases builtIn with keyword | space
  · exact identifier.free keyword
  · exact absurd (identifier.word 32 space) (by decide)

end Names

end CycloneDDS
end StarterCpp
