import StarterCpp.CycloneDDS.EmittedLines
import StarterCpp.CycloneDDS.StructTable
import StarterCpp.Library.SearchWays

/-!
# The order of the structs

The generator keeps the structs of a schema under their names, whatever module they
are in: the last struct of a name replaces the others.  It finds the structs that a
struct uses from the text of its fields, and sorts the names.  In every order of the
sets each struct stands after those it uses, unless a search may be inside of a struct
when it enters one that uses it.  It may only where an enumeration is taken for a
struct.
-/

namespace StarterCpp
namespace CycloneDDS

open Entries Text

/-- A struct as it is parsed. -/
def IdlStruct.info (struct : IdlStruct) : StructInfo where
  module := struct.module
  name := struct.name
  fields := struct.fields.map IdlField.parsed

/-- The base of a type that can be used can be used. -/
theorem usable_base
    {files : List IdlFile}
    {position : Name × Name → ℕ}
    {user : IdlStruct}
    {type : IdlType}
    (usable : type.Usable files position user) :
    type.base.Usable files position user := by
  cases type with
  | boolean | integer | string | enumeration | struct | sequence => exact usable

namespace IdlType

/-- The name of a type that is a struct. -/
def struct? : IdlType → Option Name
  | .struct _ name => some name
  | .boolean | .integer _ | .string _ | .enumeration _ _ | .sequence _ _ => none

/-- The name of a type that is an enumeration. -/
def enum? : IdlType → Option Name
  | .enumeration _ name => some name
  | .boolean | .integer _ | .string _ | .struct _ _ | .sequence _ _ => none

theorem struct?_eq_some
    {type : IdlType}
    {name : Name} :
    type.struct? = some name ↔ ∃ scope, type = .struct scope name := by
  cases type <;> simp [struct?]

end IdlType

namespace Schema

variable (schema : Schema)

/-- The files as they are parsed. -/
def allData : List ParsedFile :=
  schema.files.map IdlFile.parsed

theorem typeNames : TypeNames schema.enumNames schema.structNames :=
  ⟨schema.identifiers⟩

/-! ## Kept structs -/

/-- The struct that is kept under a name: the last one. -/
def kept (name : Name) : Option IdlStruct :=
  schema.structs.reverse.find? fun struct => struct.name = name

variable {schema}

theorem mem_of_kept
    {name : Name}
    {struct : IdlStruct}
    (kept : schema.kept name = some struct) :
    struct ∈ schema.structs ∧ struct.name = name := by
  have found : schema.structs.reverse.find? (fun struct => struct.name = name) =
      some struct :=
    kept
  have named := List.find?_some found
  exact ⟨List.mem_reverse.mp (List.mem_of_find?_eq_some found),
    of_decide_eq_true named⟩

/-- What a schema can use is declared. -/
theorem known_of_usable
    {user : IdlStruct}
    {type : IdlType}
    (usable : type.Usable schema.files schema.position user) :
    type.Known schema.enumNames schema.structNames := by
  induction type with
  | boolean | integer | string => trivial
  | enumeration scope name => exact List.mem_map.mpr ⟨_, usable.1, rfl⟩
  | struct scope name =>
      have declared : (scope, name) ∈ schema.structs.map IdlStruct.scoped := usable.1
      obtain ⟨struct, member, same⟩ := List.mem_map.mp declared
      exact List.mem_map.mpr ⟨struct, member, congrArg Prod.snd same⟩
  | sequence element bound inductionHypothesis => exact inductionHypothesis usable

/-! ## Supported structs -/

variable (schema)

/-- The functions of a struct of a module find what a type uses: an enumeration or a
struct of the module whose name means a type there.  A struct is kept, and no
enumeration has its name. -/
def Resolves (module : Name) : IdlType → Prop
  | .boolean | .integer _ | .string _ => True
  | .enumeration scope name =>
      scope = module ∧ (cppName module name).isVisible = true
  | .struct scope name =>
      scope = module ∧ (cppName module name).isVisible = true ∧
        name ∉ schema.enumNames ∧
          (schema.kept name).map IdlStruct.module = some module
  | .sequence _ _ => False

instance decidableResolves (module : Name) :
    ∀ type : IdlType, Decidable (schema.Resolves module type)
  | .boolean | .integer _ | .string _ => .isTrue trivial
  | .enumeration _ _ => inferInstanceAs (Decidable (_ ∧ _))
  | .struct _ _ => inferInstanceAs (Decidable (_ ∧ _))
  | .sequence _ _ => .isFalse id

/-- The functions of a struct can be written: no name in them is a keyword, no field
has the name of the struct, and each field, or each element of it, has a type that is
found. -/
structure Supports (struct : IdlStruct) : Prop where
  module : struct.module ∉ cppKeywords
  name : struct.name ∉ cppKeywords
  fields : ∀ field ∈ struct.fields, field.name ∉ struct.name :: cppKeywords
  types : ∀ field ∈ struct.fields, schema.Resolves struct.module field.type.base

instance (struct : IdlStruct) : Decidable (schema.Supports struct) :=
  decidable_of_iff
    ((cppKeywords.contains struct.module = false ∧
        cppKeywords.contains struct.name = false) ∧
      (∀ field ∈ struct.fields,
        (struct.name :: cppKeywords).contains field.name = false) ∧
        ∀ field ∈ struct.fields, schema.Resolves struct.module field.type.base)
    ⟨fun ⟨⟨module, name⟩, fields, types⟩ =>
        ⟨by simpa using module, by simpa using name,
          fun field among => by simpa using fields field among, types⟩,
      fun ⟨module, name, fields, types⟩ =>
        ⟨⟨by simpa using module, by simpa using name⟩,
          fun field among => by simpa using fields field among, types⟩⟩

/-- The functions of every struct that is kept can be written. -/
def Supported : Prop :=
  ∀ struct ∈ schema.structs, schema.kept struct.name = some struct →
    schema.Supports struct

/-- No struct uses an enumeration that has the name of a struct. -/
def EnumsApart : Prop :=
  ∀ struct ∈ schema.structs, ∀ field ∈ struct.fields,
    ∀ name ∈ field.type.base.enum?, name ∉ schema.structNames

/-- The names of the structs that the struct kept under a name uses. -/
def used (name : Name) : List Name :=
  match schema.kept name with
  | some struct => struct.fields.filterMap fun field => field.type.base.struct?
  | none => []

variable {schema}

theorem Supported.supports
    (supported : schema.Supported)
    {name : Name}
    {struct : IdlStruct}
    (kept : schema.kept name = some struct) :
    schema.Supports struct := by
  obtain ⟨member, rfl⟩ := mem_of_kept kept
  exact supported struct member kept

theorem mem_used
    {user : Name}
    {struct : IdlStruct}
    (kept : schema.kept user = some struct)
    {name : Name} :
    name ∈ schema.used user ↔
      ∃ field ∈ struct.fields, ∃ scope, field.type.base = .struct scope name := by
  simp only [used, kept, List.mem_filterMap, IdlType.struct?_eq_some]

/-- A struct that is used is kept, and has been declared before. -/
theorem kept_of_used
    {struct : IdlStruct}
    (member : struct ∈ schema.structs)
    (supports : schema.Supports struct)
    {field : IdlField}
    (among : field ∈ struct.fields)
    {scope name : Name}
    (uses : field.type.base = .struct scope name) :
    ∃ other, schema.kept name = some other ∧ other.module = struct.module ∧
      schema.position other.scoped < schema.position struct.scoped := by
  have usable := usable_base (schema.usable struct member field among)
  have resolves := supports.types field among
  rw [uses] at usable resolves
  obtain ⟨rfl, _, _, keeps⟩ := resolves
  obtain ⟨other, kept, sameModule⟩ := Option.map_eq_some_iff.mp keeps
  refine ⟨other, kept, sameModule, ?_⟩
  have named : other.scoped = (struct.module, name) :=
    Prod.ext sameModule (mem_of_kept kept).2
  rw [named]
  exact usable.2.2

/-! ## Dependencies -/

/-- The base of a field as the generator finds it. -/
theorem base_parsed
    {user : IdlStruct}
    {field : IdlField}
    (usable : field.type.Usable schema.files schema.position user)
    (flat : field.type.base.isSequence = false) :
    (splitScopes (sequenceElementType field.parsed.1)).getLastD [] =
      field.type.base.parsedText := by
  have known := known_of_usable usable
  have noColon := noColon_parsedText schema.typeNames known
  rw [IdlField.parsed, reStringBoundSub_text schema.typeNames known,
    splitScopes_of_noColon fun colon => noColon (mem_of_mem_sequenceElementType colon)]
  exact sequenceElementType_parsedText schema.typeNames known flat

/-- What is found of a sequence of sequences is no struct. -/
theorem base_parsed_nested
    {user : IdlStruct}
    {field : IdlField}
    (usable : field.type.Usable schema.files schema.position user)
    (nested : field.type.base.isSequence = true) :
    (splitScopes (sequenceElementType field.parsed.1)).getLastD [] ∉
      schema.structNames := by
  have known := known_of_usable usable
  have noColon := noColon_parsedText schema.typeNames known
  obtain ⟨element, bound, outerBound, same⟩ := exists_nested nested
  rw [IdlField.parsed, reStringBoundSub_text schema.typeNames known,
    splitScopes_of_noColon fun colon => noColon (mem_of_mem_sequenceElementType colon),
    same]
  intro member
  have identifier := schema.identifiers _ (List.mem_append_right _ member)
  exact absurd
    (identifier.word 60 (bracket_sequenceElementType element bound outerBound))
    (by decide)

/-- Only a struct and an enumeration have the text of a struct. -/
theorem eq_of_parsedText
    {type : IdlType}
    (single : type.isSequence = false)
    (declared : type.parsedText ∈ schema.structNames) :
    type.struct? = some type.parsedText ∨ type.enum? = some type.parsedText := by
  have builtIn : ∀ text : Name, text ∈ keywords ∨ 32 ∈ text →
      text ∉ schema.structNames :=
    fun text => fun found => (schema.typeNames.not_mem_of_builtIn found).2
  cases type with
  | boolean => exact absurd declared (builtIn _ (.inl (by decide)))
  | integer kind =>
      refine absurd declared (builtIn _ ?_)
      cases kind <;> decide
  | string bound => exact absurd declared (builtIn (ascii "string") (.inl (by decide)))
  | enumeration scope name => exact .inr rfl
  | struct scope name => exact .inl rfl
  | sequence element bound => cases single

variable (schema) in
/-- The struct that is kept under a name is taken to use another: a field, or each
element of it, is a struct or an enumeration with the name of that struct. -/
def Leads (user name : Name) : Prop :=
  name ∈ schema.structNames ∧ name ≠ user ∧ ∃ struct, schema.kept user = some struct ∧
    ∃ field ∈ struct.fields,
      field.type.base.struct? = some name ∨ field.type.base.enum? = some name

/-- The names that are kept with a name are those its struct is taken to use. -/
theorem mem_fieldDeps
    {struct : IdlStruct}
    (kept : schema.kept struct.name = some struct)
    {name : Name} :
    name ∈ fieldDeps schema.structNames struct.info ↔ schema.Leads struct.name name := by
  have member := (mem_of_kept kept).1
  rw [fieldDeps, List.mem_filter, IdlStruct.info, List.map_map, List.mem_map,
    Bool.and_eq_true, List.contains_iff_mem, decide_eq_true_eq]
  constructor
  · rintro ⟨⟨field, among, rfl⟩, declared, other⟩
    refine ⟨declared, other, struct, kept, field, among, ?_⟩
    have usable := schema.usable struct member field among
    cases nested : field.type.base.isSequence with
    | true => exact absurd declared (base_parsed_nested usable nested)
    | false =>
        rw [Function.comp_apply, base_parsed usable nested] at declared ⊢
        exact eq_of_parsedText nested declared
  · rintro ⟨declared, other, found, isKept, field, among, named⟩
    obtain rfl := Option.some.inj (kept.symm.trans isKept)
    refine ⟨⟨field, among, ?_⟩, declared, other⟩
    obtain ⟨flat, same⟩ : field.type.base.isSequence = false ∧
        field.type.base.parsedText = name := by
      cases base : field.type.base <;>
        simp_all [IdlType.struct?, IdlType.enum?, IdlType.isSequence, IdlType.parsedText]
    rw [Function.comp_apply, base_parsed (schema.usable struct member field among) flat,
      same]

/-- A struct is taken to use only those it uses, when no enumeration is taken for a
struct. -/
theorem Leads.mem_used
    {user name : Name}
    (leads : schema.Leads user name)
    (apart : schema.EnumsApart) :
    name ∈ schema.used user := by
  obtain ⟨declared, _, struct, kept, field, among, isStruct | isEnum⟩ := leads
  · exact (Schema.mem_used kept).mpr
      ⟨field, among, IdlType.struct?_eq_some.mp isStruct⟩
  · exact absurd declared (apart struct (mem_of_kept kept).1 field among name isEnum)

variable (schema)

/-- The names that a name is kept with, as they are iterated. -/
def dependencies (order : SetOrder) : Name → List Name :=
  structDeps order (structInfos schema.allData) schema.structNames

/-- The names of the structs in the order of their helpers. -/
def sortedNames (order : SetOrder) : List Name :=
  DepthFirst.sort (schema.dependencies order) schema.structNames.length
    schema.structNames

variable {schema}

/-- The position of the struct that is kept under a name. -/
def rank (schema : Schema) (name : Name) : ℕ :=
  ((schema.kept name).map fun struct => schema.position struct.scoped).getD 0

end Schema

end CycloneDDS
end StarterCpp
