import StarterCpp.CycloneDDS.FieldRoundTrip

/-!
# Reading back a struct

The lines of `toJson` write each field under its own name, and those of `fromJson`
read each field from there into a new object.  So a struct is read back when each
of its fields is, and reading throws when reading one of them does.
-/

namespace StarterCpp
namespace CycloneDDS

open Entries

section Fields

variable (declared : List Compiled)
variable (cls : CppClass)
variable (module : Name)

/-- A field is read from what is written for it, or reading throws. -/
def FieldReads (field : IdlField) (value : Value) (written : CrowValue) : Prop :=
  ∀ d members, d.member field.name = some written →
    (field.type.isSequence = true →
      members.lookup field.name = some (.sequence [])) →
    (¬Oversized value →
      FromJsonLine.run declared cls d members (field.fromJsonLine module) =
        some (assign field.name value members)) ∧
    (Oversized value →
      FromJsonLine.run declared cls d members (field.fromJsonLine module) = none)

/-- A field is written under its name, and read from there. -/
def FieldReadBack
    (members : List (Name × Value))
    (field : IdlField)
    (value : Value) : Prop :=
  ∃ written,
    (∀ j, ToJsonLine.run declared cls members j field.toJsonLine =
      some (j.setMember field.name written)) ∧
    FieldReads declared cls module field value written

end Fields

section Lines

variable {structs : List IdlStruct}
variable {declared : List Compiled}
variable {cls : CppClass}
variable {module : Name}

theorem toJsonLine_of_single
    {field : IdlField}
    (single : field.type.isSequence = false) :
    field.toJsonLine = .assign field.name (some field.type.writer) := by
  obtain ⟨type, name⟩ := field
  cases type with
  | sequence element bound => cases single
  | boolean | integer | string | enumeration | struct => rfl

theorem fromJsonLine_of_single
    {field : IdlField}
    (single : field.type.isSequence = false) :
    field.fromJsonLine module = .set field.name (some (field.type.reader module)) := by
  obtain ⟨type, name⟩ := field
  cases type with
  | sequence element bound => cases single
  | boolean | integer | string | enumeration | struct => rfl

/-- A field that is no sequence is read back. -/
theorem fieldReadBack_of_single
    {field : IdlField}
    {members : List (Name × Value)}
    {value : Value}
    (ofClass : cls.accessed field.name = some field.type.cppType)
    (ofObject : members.lookup field.name = some value)
    (served : field.type.Served structs declared module)
    (single : field.type.isSequence = false)
    (typed : HasType structs field.type value) :
    FieldReadBack declared cls module members field value := by
  obtain ⟨written, writes, reads, throws⟩ :=
    readBack_elementReader served single typed
  refine ⟨written, ?_, ?_⟩
  · intro j
    simp [toJsonLine_of_single single, ToJsonLine.run, ofClass, ofObject, writes]
  · intro d others found _
    rw [fromJsonLine_of_single single]
    constructor
    · intro small
      simp [FromJsonLine.run, ofClass, found, eval_reader single, reads small]
    · intro oversized
      simp [FromJsonLine.run, ofClass, found, eval_reader single, throws oversized]

/-- A field that is a sequence is read back. -/
theorem fieldReadBack_of_sequence
    {element : IdlType}
    {bound : Option ℕ}
    {name : Name}
    {members : List (Name × Value)}
    {values : List Value}
    (ofClass : cls.accessed name = some (.vector element.cppType))
    (ofObject : members.lookup name = some (.sequence values))
    (served : element.Served structs declared module)
    (single : element.isSequence = false)
    (typed : ∀ value ∈ values, HasType structs element value) :
    FieldReadBack declared cls module members ⟨.sequence element bound, name⟩
      (.sequence values) := by
  obtain ⟨written, writes, reads, throws⟩ := readBack_mapM fun value member =>
    readBack_elementReader served single (typed value member)
  refine ⟨.list written, ?_, ?_⟩
  · intro j
    simpa [IdlField.toJsonLine, ToJsonLine.run, ofClass, ofObject] using
      fill_eq writes [] j
  · intro d others found new
    have empty := new rfl
    constructor
    · intro small
      have smallElements : ∀ value ∈ values, ¬Oversized value :=
        fun value member oversized => small (.element member oversized)
      simp [IdlField.fromJsonLine, FromJsonLine.run, ofClass, found, empty, push_eq,
        CrowValue.elements, reads smallElements]
    · intro oversized
      have largeElement := Oversized.sequence_iff.mp oversized
      simp [IdlField.fromJsonLine, FromJsonLine.run, ofClass, found, empty, push_eq,
        CrowValue.elements, throws largeElement]

/-- A field of a class is read back. -/
theorem fieldReadBack
    {field : IdlField}
    {members : List (Name × Value)}
    {value : Value}
    (ofClass : cls.accessed field.name = some field.type.cppType)
    (ofObject : members.lookup field.name = some value)
    (served : field.type.Served structs declared module)
    (flat : field.type.base.isSequence = false)
    (typed : HasType structs field.type value) :
    FieldReadBack declared cls module members field value := by
  cases single : field.type.isSequence with
  | false =>
      exact fieldReadBack_of_single ofClass ofObject served single typed
  | true =>
      obtain ⟨type, name⟩ := field
      cases typed with
      | boolean | integer | string | enumerator | struct => cases single
      | sequence bound typed =>
          exact fieldReadBack_of_sequence ofClass ofObject served flat typed

/-! ## All lines -/

/-- The member of a new object for a field: a sequence is empty. -/
def IsNewMember (field : IdlField) (member : Name × Value) : Prop :=
  field.name = member.1 ∧
    (field.type.isSequence = true → member.2 = .sequence [])

/-- The lines of `toJson` write every field, and nothing else. -/
theorem foldlM_toJson
    {members : List (Name × Value)}
    {fields : List IdlField}
    {values : List Value}
    (distinct : (fields.map IdlField.name).Nodup)
    (each : List.Forall₂ (FieldReadBack declared cls module members) fields values)
    (j : CrowValue) :
    ∃ d, (fields.map IdlField.toJsonLine).foldlM
        (ToJsonLine.run declared cls members) j = some d ∧
      (∀ other ∉ fields.map IdlField.name, d.member other = j.member other) ∧
      List.Forall₂ (fun field value => ∃ written,
        d.member field.name = some written ∧
          FieldReads declared cls module field value written) fields values := by
  induction each generalizing j with
  | nil => exact ⟨j, rfl, fun _ _ => rfl, .nil⟩
  | @cons field value fields values here later inductionHypothesis =>
      obtain ⟨written, writes, reads⟩ := here
      obtain ⟨new, distinctLater⟩ := List.nodup_cons.mp distinct
      obtain ⟨d, ran, kept, readsLater⟩ := inductionHypothesis distinctLater
        (j.setMember field.name written)
      refine ⟨d, ?_, ?_, .cons ⟨written, ?_, reads⟩ readsLater⟩
      · rw [List.map_cons, List.foldlM_cons, writes]
        exact ran
      · intro other absent
        rw [List.map_cons, List.mem_cons, not_or] at absent
        obtain ⟨apart, absentLater⟩ := absent
        rw [kept other absentLater, CrowValue.member_setMember_of_ne apart]
      · rw [kept field.name new, CrowValue.member_setMember]

/-- The lines of `fromJson` read every field, unless one is too large. -/
theorem foldlM_fromJson
    {d : CrowValue}
    {fields : List IdlField}
    {values : List Value}
    (each : List.Forall₂ (fun field value => ∃ written,
      d.member field.name = some written ∧
        FieldReads declared cls module field value written) fields values)
    {initials : List (Name × Value)}
    (new : List.Forall₂ IsNewMember fields initials)
    {done : List (Name × Value)}
    (distinct : (done.map Prod.fst ++ fields.map IdlField.name).Nodup) :
    ((∀ value ∈ values, ¬Oversized value) →
      (fields.map (IdlField.fromJsonLine module)).foldlM
          (FromJsonLine.run declared cls d) (done ++ initials) =
        some (done ++ (fields.map IdlField.name).zip values)) ∧
    ((∃ value ∈ values, Oversized value) →
      (fields.map (IdlField.fromJsonLine module)).foldlM
          (FromJsonLine.run declared cls d) (done ++ initials) = none) := by
  induction each generalizing initials done with
  | nil =>
      cases new
      exact ⟨fun _ => by simp, by simp⟩
  | @cons field value fields values here later inductionHypothesis =>
      obtain ⟨written, found, reads⟩ := here
      cases new with
      | @cons _ entry _ rest fresh newRest =>
          obtain ⟨_, initial⟩ := entry
          obtain ⟨rfl, empty⟩ := fresh
          have absent : field.name ∉ done.map Prod.fst := by
            intro earlier
            exact (List.nodup_append.mp distinct).2.2 _ earlier _ List.mem_cons_self rfl
          have distinctLater :
              ((done ++ [(field.name, value)]).map Prod.fst ++
                fields.map IdlField.name).Nodup := by
            simpa using distinct
          obtain ⟨readsHere, throwsHere⟩ := reads d
            (done ++ (field.name, initial) :: rest) found (fun sequence => by
              rw [lookup_append absent]
              exact congrArg some (empty sequence))
          rw [assign_append absent] at readsHere
          obtain ⟨readsLater, throwsLater⟩ := inductionHypothesis newRest distinctLater
          rw [List.append_assoc, List.append_assoc] at readsLater
          rw [List.append_assoc] at throwsLater
          rw [List.map_cons, List.foldlM_cons]
          constructor
          · intro small
            obtain ⟨smallHere, smallLater⟩ := List.forall_mem_cons.mp small
            rw [readsHere smallHere]
            exact readsLater smallLater
          · intro large
            by_cases largeHere : Oversized value
            · rw [throwsHere largeHere]
              rfl
            · obtain ⟨other, member, oversized⟩ := large
              have among := (List.mem_cons.mp member).resolve_left (by
                rintro rfl
                exact largeHere oversized)
              rw [readsHere largeHere]
              exact throwsLater ⟨other, among, oversized⟩

end Lines

/-! ## Structs -/

/-- The helper that is emitted for a struct whose fields are no sequences of
sequences. -/
def IdlStruct.helper (struct : IdlStruct) : Helper where
  name := cppName struct.module struct.name
  toJson := struct.fields.map IdlField.toJsonLine
  fromJson := struct.fields.map (IdlField.fromJsonLine struct.module)

/-- What a struct needs so that its functions compile after others and read its
values back. -/
structure Readable
    (structs : List IdlStruct)
    (declared : List Compiled)
    (struct : IdlStruct) : Prop where
  distinct : (struct.fields.map IdlField.name).Nodup
  spelled : (cppName struct.module struct.name).isSpelled = true
  accessible : ∀ field ∈ struct.fields, field.name ∉ struct.name :: cppKeywords
  flat : ∀ field ∈ struct.fields, field.type.base.isSequence = false
  served : ∀ field ∈ struct.fields, field.type.Served structs declared struct.module

section Struct

variable {structs : List IdlStruct}
variable {declared : List Compiled}
variable {module : Name}
variable {struct : IdlStruct}

/-- A new value of a type exists, and is empty for a sequence. -/
theorem exists_initial
    {type : IdlType}
    (served : type.Served structs declared module) :
    ∃ value, type.cppType.initial declared = some value ∧
      (type.isSequence = true → value = .sequence []) := by
  cases type with
  | boolean | integer | string | enumeration =>
      exact ⟨_, rfl, fun sequence => by cases sequence⟩
  | struct scope name =>
      obtain ⟨rfl, _, functions, found, _⟩ := served
      refine ⟨functions.initial, ?_, fun sequence => by cases sequence⟩
      simp [IdlType.cppType, CppType.initial, found]
  | sequence element bound => exact ⟨_, rfl, fun _ => rfl⟩

/-- A new object has an empty sequence for each sequence. -/
theorem exists_initialMembers
    {fields : List IdlField}
    (served : ∀ field ∈ fields, field.type.Served structs declared module) :
    ∃ initials,
      (fields.map fun field => (field.name, field.type.cppType)).mapM
          (fun member : Name × CppType =>
            (member.2.initial declared).map fun value => (member.1, value)) =
        some initials ∧
      List.Forall₂ IsNewMember fields initials := by
  induction fields with
  | nil => exact ⟨[], rfl, .nil⟩
  | cons field fields inductionHypothesis =>
      obtain ⟨here, later⟩ := List.forall_mem_cons.mp served
      obtain ⟨initials, made, empty⟩ := inductionHypothesis later
      obtain ⟨value, madeHere, emptyHere⟩ := exists_initial here
      refine ⟨(field.name, value) :: initials, ?_, .cons ⟨rfl, emptyHere⟩ empty⟩
      simp [List.mapM_cons, madeHere, made]

/-- The class of a struct has its fields, but for those whose names mean something
else. -/
theorem accessed_cppClass
    (distinct : (struct.fields.map IdlField.name).Nodup)
    {field : IdlField}
    (member : field ∈ struct.fields) :
    struct.cppClass.accessed field.name =
      if field.name ∈ struct.name :: cppKeywords then none
      else some field.type.cppType := by
  have ofClass : struct.cppClass.members.lookup field.name =
      some field.type.cppType := by
    apply lookup_of_mem
    · simpa [IdlStruct.cppClass, Function.comp_def] using distinct
    · exact List.mem_map.mpr ⟨field, member, rfl⟩
  simp only [CppClass.accessed, List.contains_iff_mem, ofClass]
  rw [IdlStruct.cppClass, getLastD_cppName]

/-- The line of `fromJson` for a field compiles exactly when the field can be written
to and what its type uses can be named. -/
theorem compiles_fromJsonLine
    (distinct : (struct.fields.map IdlField.name).Nodup)
    {field : IdlField}
    (member : field ∈ struct.fields)
    (flat : field.type.base.isSequence = false) :
    (field.fromJsonLine struct.module).compiles declared struct.cppClass = true ↔
      field.name ∉ struct.name :: cppKeywords ∧
        field.type.Named declared struct.module := by
  have ofClass := accessed_cppClass distinct member
  by_cases hidden : field.name ∈ struct.name :: cppKeywords
  · rw [if_pos hidden] at ofClass
    refine iff_of_false ?_ fun both => both.1 hidden
    obtain ⟨type, name⟩ := field
    cases type <;> simp [IdlField.fromJsonLine, FromJsonLine.compiles, ofClass]
  · rw [if_neg hidden] at ofClass
    rw [and_iff_right hidden]
    cases single : field.type.isSequence with
    | false =>
        rw [fromJsonLine_of_single single, FromJsonLine.compiles, ofClass]
        exact compiles_reader single
    | true =>
        obtain ⟨type, name⟩ := field
        cases type with
        | boolean | integer | string | enumeration | struct => cases single
        | sequence element bound =>
            rw [IdlType.cppType] at ofClass
            rw [IdlField.fromJsonLine, FromJsonLine.compiles, ofClass]
            exact compiles_elementReader flat

/-- Then so does the line of `toJson`. -/
theorem compiles_toJsonLine
    (distinct : (struct.fields.map IdlField.name).Nodup)
    {field : IdlField}
    (member : field ∈ struct.fields)
    (flat : field.type.base.isSequence = false)
    (accessible : field.name ∉ struct.name :: cppKeywords)
    (named : field.type.Named declared struct.module) :
    field.toJsonLine.compiles declared struct.cppClass = true := by
  have ofClass := accessed_cppClass distinct member
  rw [if_neg accessible] at ofClass
  cases single : field.type.isSequence with
  | false =>
      rw [toJsonLine_of_single single, ToJsonLine.compiles, ofClass]
      exact compiles_writer named single
  | true =>
      obtain ⟨type, name⟩ := field
      cases type with
      | boolean | integer | string | enumeration | struct => cases single
      | sequence element bound =>
          rw [IdlType.cppType] at ofClass
          rw [IdlField.toJsonLine, ToJsonLine.compiles, ofClass]
          exact compiles_writer named flat

/-- Each field of a struct is read back. -/
theorem Readable.fieldReadBack
    (readable : Readable structs declared struct)
    {values : List Value}
    (typed : List.Forall₂ (fun field value => HasType structs field.type value)
      struct.fields values) :
    List.Forall₂
      (FieldReadBack declared struct.cppClass struct.module
        ((struct.fields.map IdlField.name).zip values)) struct.fields values := by
  have length := typed.length_eq
  have names : ((struct.fields.map IdlField.name).zip values).map Prod.fst =
      struct.fields.map IdlField.name :=
    List.map_fst_zip (by simp [length])
  rw [List.forall₂_iff_zip]
  refine ⟨length, ?_⟩
  intro field value paired
  have member := (List.of_mem_zip paired).1
  have ofObject : ((struct.fields.map IdlField.name).zip values).lookup field.name =
      some value := by
    apply lookup_of_mem
    · rw [names]
      exact readable.distinct
    · rw [List.zip_map_left]
      exact List.mem_map.mpr ⟨(field, value), paired, rfl⟩
  have ofClass := accessed_cppClass readable.distinct member
  rw [if_neg (readable.accessible field member)] at ofClass
  exact CycloneDDS.fieldReadBack ofClass ofObject (readable.served field member)
    (readable.flat field member) ((List.forall₂_iff_zip.mp typed).2 paired)

/-- The values of a struct are read back. -/
theorem Readable.readBack
    (readable : Readable structs declared struct)
    {initials : List (Name × Value)}
    (new : List.Forall₂ IsNewMember struct.fields initials)
    {values : List Value}
    (typed : List.Forall₂ (fun field value => HasType structs field.type value)
      struct.fields values) :
    ReadBack (struct.helper.runToJson declared struct.cppClass)
      (struct.helper.runFromJson declared struct.cppClass initials)
      (.struct ((struct.fields.map IdlField.name).zip values)) := by
  have contents : ((struct.fields.map IdlField.name).zip values).map Prod.snd =
      values :=
    List.map_snd_zip (by simp [typed.length_eq])
  have noneDone : (([] : List (Name × Value)).map Prod.fst ++
      struct.fields.map IdlField.name).Nodup :=
    readable.distinct
  obtain ⟨d, ran, _, reads⟩ :=
    foldlM_toJson readable.distinct (readable.fieldReadBack typed) .null
  obtain ⟨readsAll, throws⟩ := foldlM_fromJson reads new noneDone
  rw [List.nil_append] at readsAll throws
  refine ⟨d, ran, ?_, ?_⟩
  · intro small
    have smallValues : ∀ value ∈ values, ¬Oversized value := by
      intro value member oversized
      rw [← contents] at member
      obtain ⟨⟨name, _⟩, paired, rfl⟩ := List.mem_map.mp member
      exact small (.member paired oversized)
    rw [Helper.runFromJson, IdlStruct.helper, readsAll smallValues]
    rfl
  · intro oversized
    obtain ⟨entry, member, large⟩ := Oversized.struct_iff.mp oversized
    have largeValue : ∃ value ∈ values, Oversized value :=
      ⟨entry.2, (List.of_mem_zip member).2, large⟩
    rw [Helper.runFromJson, IdlStruct.helper, throws largeValue]
    rfl

/-- The helper of a struct compiles to functions that read its values back. -/
theorem Readable.compile
    (readable : Readable structs declared struct)
    (unique : ∀ other ∈ structs, other.module = struct.module →
      other.name = struct.name → other = struct)
    {classes : List CppClass}
    (found : classes.find? (fun cls => cls.name = struct.helper.name) =
      some struct.cppClass) :
    ∃ functions, struct.helper.compile classes declared = some functions ∧
      functions.name = cppName struct.module struct.name ∧
      ∀ value, HasType structs (.struct struct.module struct.name) value →
        ReadBack functions.toJson functions.fromJson value := by
  obtain ⟨initials, made, new⟩ := exists_initialMembers readable.served
  have madeNew : Helper.initialMembers declared struct.cppClass = some initials :=
    made
  have spelled : struct.helper.name.isSpelled = true :=
    readable.spelled
  have writes : ∀ line ∈ struct.helper.toJson,
      line.compiles declared struct.cppClass = true := by
    intro line member
    obtain ⟨field, among, rfl⟩ := List.mem_map.mp member
    exact compiles_toJsonLine readable.distinct among (readable.flat field among)
      (readable.accessible field among) (readable.served field among).named
  have reads : ∀ line ∈ struct.helper.fromJson,
      line.compiles declared struct.cppClass = true := by
    intro line member
    obtain ⟨field, among, rfl⟩ := List.mem_map.mp member
    exact (compiles_fromJsonLine readable.distinct among (readable.flat field among)).mpr
      ⟨readable.accessible field among, (readable.served field among).named⟩
  let functions : Compiled := {
    name := struct.helper.name
    initial := .struct initials
    toJson := struct.helper.runToJson declared struct.cppClass
    fromJson := struct.helper.runFromJson declared struct.cppClass initials }
  refine ⟨functions, ?_, rfl, ?_⟩
  · simpa [Helper.compile, found, madeNew, functions] using
      And.intro spelled (And.intro writes reads)
  · intro value typed
    generalize same : IdlType.struct struct.module struct.name = type at typed
    cases typed with
    | boolean | integer | string | enumerator | sequence => cases same
    | @struct other values declaredOther typed =>
        obtain ⟨sameModule, sameName⟩ := IdlType.struct.inj same
        obtain rfl := unique other declaredOther sameModule.symm sameName.symm
        exact readable.readBack new typed

end Struct

end CycloneDDS
end StarterCpp
