import StarterCpp.CycloneDDS.EmittedLines

/-!
# Reading back a field

What `toJson` writes for a value of a field is read back by `fromJson`, provided
that no number is too large for the accessor; then the accessor throws.  The
elements of a sequence are written by index and pushed back one by one.
-/

namespace StarterCpp
namespace CycloneDDS

open Entries

/-- What is written for a value is read back, or it is too large to be read. -/
def ReadBack
    (write : Value → Option CrowValue)
    (read : CrowValue → Option Value)
    (value : Value) : Prop :=
  ∃ written, write value = some written ∧
    (¬Oversized value → read written = some value) ∧
      (Oversized value → read written = none)

/-- A struct has been compiled, and its values are read back. -/
def IsServed
    (structs : List IdlStruct)
    (declared : List Compiled)
    (scope name : Name) : Prop :=
  ∃ functions, functionsOf declared (cppName scope name) = some functions ∧
    ∀ value, HasType structs (.struct scope name) value →
      ReadBack functions.toJson functions.fromJson value

namespace IdlType

/-- The functions of a struct of a module can name the enumeration or the struct that
a type uses: it is one of the module, and a struct has been compiled. -/
def Named (declared : List Compiled) (module : Name) : IdlType → Prop
  | .boolean | .integer _ | .string _ => True
  | .enumeration scope name =>
      scope = module ∧ (cppName module name).isVisible = true
  | .struct scope name =>
      scope = module ∧ (cppName module name).isVisible = true ∧
        (functionsOf declared (cppName module name)).isSome = true
  | .sequence element _ => element.Named declared module

/-- The functions of a struct of a module can name what a type uses, and read it
back. -/
def Served
    (structs : List IdlStruct)
    (declared : List Compiled)
    (module : Name) : IdlType → Prop
  | .boolean | .integer _ | .string _ => True
  | .enumeration scope name =>
      scope = module ∧ (cppName module name).isVisible = true
  | .struct scope name =>
      scope = module ∧ (cppName module name).isVisible = true ∧
        IsServed structs declared module name
  | .sequence element _ => element.Served structs declared module

/-- What is read back can be named. -/
theorem Served.named
    {structs : List IdlStruct}
    {declared : List Compiled}
    {module : Name}
    {type : IdlType}
    (served : type.Served structs declared module) :
    type.Named declared module := by
  induction type with
  | boolean | integer | string => trivial
  | enumeration scope name => exact served
  | struct scope name =>
      obtain ⟨same, visible, functions, found, _⟩ := served
      exact ⟨same, visible, Option.isSome_of_eq_some found⟩
  | sequence element bound inductionHypothesis => exact inductionHypothesis served

end IdlType

/-! ## Names -/

/-- The name of a C++ type tells its module and its name. -/
theorem cppName_injective
    {module other name otherName : Name}
    (same : cppName module name = cppName other otherName) :
    module = other ∧ name = otherName := by
  unfold cppName at same
  split_ifs at same with outside otherOutside otherOutside
  · exact ⟨outside.trans otherOutside.symm, by simpa using same⟩
  · simp at same
  · simp at same
  · simpa using same

theorem getLastD_cppName (module name : Name) :
    (cppName module name).getLastD [] = name := by
  unfold cppName
  split_ifs <;> rfl

/-- The name of a C++ type can be written when its module and its name can. -/
theorem isSpelled_cppName
    {module name : Name} :
    (cppName module name).isSpelled = true ↔
      module ∉ cppKeywords ∧ name ∉ cppKeywords := by
  have outsideFree : ([] : Name) ∉ cppKeywords := by
    decide +kernel
  unfold cppName
  split_ifs with outside
  · simp [CppName.isSpelled, outside, outsideFree]
  · simp [CppName.isSpelled]

/-! ## Integers -/

/-- The values of the integer types fit 64 bits, but for large unsigned ones. -/
theorem fits_iff_not_oversized
    {kind : IntegerType}
    (number : kind.Number) :
    (-2 ^ 63 ≤ number.val ∧ number.val < 2 ^ 63) ↔
      ¬Oversized (.integer kind number) := by
  have range := number.property
  rw [Oversized.integer_iff]
  cases kind with
  | unsignedLongLong =>
      simp only [IntegerType.least] at range
      simp only [true_and, not_le]
      omega
  | short | unsignedShort | long | unsignedLong | longLong | octet =>
      simp only [IntegerType.least, IntegerType.count] at range
      exact iff_of_true ⟨by omega, by omega⟩ (by simp)

/-- A number that fits 64 bits is converted to itself. -/
theorem convert_longLong
    {number : ℤ}
    (fits : -2 ^ 63 ≤ number ∧ number < 2 ^ 63) :
    (IntegerType.longLong.convert number).val = number := by
  let inRange : IntegerType.longLong.Number := ⟨number, by
    simp only [IntegerType.least, IntegerType.count]
    omega⟩
  exact congrArg Subtype.val (IntegerType.convert_val inRange)

/-- A number that fits 64 bits is read. -/
theorem read_i_of_fits
    {number : ℤ}
    (fits : -2 ^ 63 ≤ number ∧ number < 2 ^ 63) :
    Accessor.i.read (.integer number) =
      some (.integer .longLong (IntegerType.longLong.convert number)) :=
  if_pos fits

/-- A number that does not fit 64 bits is not read. -/
theorem read_i_of_not_fits
    {number : ℤ}
    (large : ¬(-2 ^ 63 ≤ number ∧ number < 2 ^ 63)) :
    Accessor.i.read (.integer number) = none :=
  if_neg large

/-- Reading an integer and converting it to its type. -/
theorem readBack_integer
    {kind : IntegerType}
    {number : kind.Number}
    {read : CrowValue → Option Value}
    (reads : ∀ operand, read operand =
      (Accessor.i.read operand).map (CppType.integer kind).converted) :
    ReadBack (fun _ => some (.integer number.val)) read (.integer kind number) := by
  refine ⟨_, rfl, ?_, ?_⟩
  · intro small
    have fits := (fits_iff_not_oversized number).mpr small
    rw [reads, read_i_of_fits fits, Option.map_some, CppType.converted,
      convert_longLong fits, IntegerType.convert_val]
  · intro oversized
    have large : ¬(-2 ^ 63 ≤ number.val ∧ number.val < 2 ^ 63) :=
      fun fits => (fits_iff_not_oversized number).mp fits oversized
    rw [reads, read_i_of_not_fits large, Option.map_none]

/-- Converting a second time changes nothing. -/
theorem converted_converted
    (kind : IntegerType)
    (value : Value) :
    (CppType.integer kind).converted ((CppType.integer kind).converted value) =
      (CppType.integer kind).converted value := by
  cases value with
  | integer other number => simp only [CppType.converted, IntegerType.convert_val]
  | boolean | string | enumerator | sequence | struct => rfl

/-! ## Elements and fields -/

section Types

variable {structs : List IdlStruct}
variable {declared : List Compiled}
variable {module : Name}
variable {type : IdlType}
variable {value : Value}

/-- The value of a type that is no sequence is read back as an element. -/
theorem readBack_elementReader
    (served : type.Served structs declared module)
    (single : type.isSequence = false)
    (typed : HasType structs type value) :
    ReadBack (type.writer.eval declared type.cppType)
      ((type.elementReader module).eval declared type.cppType) value := by
  cases typed with
  | boolean value => exact ⟨_, rfl, fun _ => rfl, by simp⟩
  | integer kind number => exact readBack_integer fun _ => rfl
  | string bound text => exact ⟨_, rfl, fun _ => rfl, by simp⟩
  | enumerator scope name number =>
      have fits := (fits_iff_not_oversized number).mpr (by simp)
      refine ⟨_, rfl, ?_, by simp⟩
      intro _
      simp only [IdlType.elementReader, FromJsonExpr.eval, FromJsonExpr.value,
        read_i_of_fits fits, convert_longLong fits, IntegerType.convert_val]
      rfl
  | sequence bound typed => cases single
  | struct member typed =>
      obtain ⟨rfl, _, functions, found, readBack⟩ := served
      obtain ⟨written, writes, reads, throws⟩ := readBack _ (.struct member typed)
      refine ⟨written, ?_, ?_, ?_⟩
      · simp only [IdlType.writer, IdlType.cppType, ToJsonRhs.eval, found]
        exact writes
      · intro small
        simp only [IdlType.elementReader, FromJsonExpr.eval, FromJsonExpr.value,
          IdlType.cppType, found, Option.bind_some, reads small]
        rfl
      · intro oversized
        simp only [IdlType.elementReader, FromJsonExpr.eval, FromJsonExpr.value,
          IdlType.cppType, found, Option.bind_some, throws oversized]
        rfl

/-- The casts of fields make no difference. -/
theorem eval_reader
    (single : type.isSequence = false)
    (operand : CrowValue) :
    (type.reader module).eval declared type.cppType operand =
      (type.elementReader module).eval declared type.cppType operand := by
  cases type with
  | boolean | string | enumeration | struct => rfl
  | integer kind =>
      have castFirst : FromJsonExpr.eval declared (.cast kind .i) (.integer kind)
          operand = FromJsonExpr.eval declared (.access .i) (.integer kind) operand := by
        simp only [FromJsonExpr.eval, FromJsonExpr.value, Option.map_map]
        congr 1
        funext value
        exact converted_converted kind value
      cases kind with
      | short | unsignedShort | long | unsignedLong => exact castFirst
      | longLong | unsignedLongLong | octet => rfl
  | sequence element bound => cases single

/-- What is written for an element compiles. -/
theorem compiles_writer
    (named : type.Named declared module)
    (single : type.isSequence = false) :
    type.writer.compiles declared type.cppType = true := by
  cases type with
  | boolean | integer | string | enumeration => rfl
  | struct scope name =>
      obtain ⟨rfl, _, found⟩ := named
      exact found
  | sequence element bound => cases single

/-- The reader of an element compiles exactly when it can name what it reads. -/
theorem compiles_elementReader
    (single : type.isSequence = false) :
    (type.elementReader module).compiles declared type.cppType = true ↔
      type.Named declared module := by
  cases type with
  | boolean | integer | string => exact iff_of_true rfl trivial
  | enumeration scope name =>
      rw [IdlType.elementReader, FromJsonExpr.compiles, FromJsonExpr.type,
        IdlType.Named]
      constructor
      · intro compiles
        split_ifs at compiles with visible
        have same : cppName module name = cppName scope name := by
          simpa [IdlType.cppType, CppType.converts] using compiles
        exact ⟨(cppName_injective same).1.symm, visible⟩
      · rintro ⟨rfl, visible⟩
        simp [IdlType.cppType, CppType.converts, visible]
  | struct scope name =>
      rw [IdlType.elementReader, FromJsonExpr.compiles, FromJsonExpr.type,
        IdlType.Named]
      by_cases visible : (cppName module name).isVisible = true
      · cases found : functionsOf declared (cppName module name) with
        | none => simp
        | some functions =>
            simp only [visible, if_true, Option.map_some, IdlType.cppType,
              CppType.converts, decide_eq_true_eq, CppType.struct.injEq,
              Option.isSome_some, and_true]
            exact ⟨fun same => (cppName_injective same).1.symm, by rintro rfl; rfl⟩
      · simp [visible]
  | sequence element bound => cases single

/-- So does the reader of a field. -/
theorem compiles_reader
    (single : type.isSequence = false) :
    (type.reader module).compiles declared type.cppType = true ↔
      type.Named declared module := by
  cases type with
  | boolean | string | enumeration | struct | sequence =>
      exact compiles_elementReader single
  | integer kind => cases kind <;> exact iff_of_true rfl trivial

end Types

/-! ## Members -/

namespace CrowValue

@[simp] theorem member_setMember
    (name : Name)
    (value j : CrowValue) :
    (j.setMember name value).member name = some value := by
  cases j with
  | object members => exact lookup_assign name value members
  | null | boolean | integer | string | list => simp [setMember, member]

theorem member_setMember_of_ne
    {name other : Name}
    (apart : other ≠ name)
    (value j : CrowValue) :
    (j.setMember name value).member other = j.member other := by
  cases j with
  | object members => exact lookup_assign_of_ne apart value members
  | null | boolean | integer | string | list =>
      simp [setMember, member, apart]

@[simp] theorem setMember_setMember
    (name : Name)
    (first second j : CrowValue) :
    (j.setMember name first).setMember name second = j.setMember name second := by
  cases j with
  | object members => simp [setMember, assign_assign]
  | null | boolean | integer | string | list => simp [setMember, assign]

/-- Writing behind the last element of a list makes it longer. -/
@[simp] theorem setIndex_length
    (elements : List CrowValue)
    (value : CrowValue) :
    (list elements).setIndex elements.length value = list (elements ++ [value]) := by
  simp [setIndex]

end CrowValue

/-! ## Sequences -/

/-- Writing the elements of a sequence by index. -/
theorem fill_eq
    {declared : List Compiled}
    {field : Name}
    {rhs : ToJsonRhs}
    {type : CppType}
    {elements : List Value}
    {written : List CrowValue}
    (writes : elements.mapM (rhs.eval declared type) = some written)
    (done : List CrowValue)
    (j : CrowValue) :
    ToJsonLine.fill declared field rhs type done.length elements
        (j.setMember field (.list done)) =
      some (j.setMember field (.list (done ++ written))) := by
  induction elements generalizing done written with
  | nil =>
      obtain rfl : [] = written := by
        simpa using writes
      simp [ToJsonLine.fill]
  | cons element elements inductionHypothesis =>
      rw [List.mapM_cons] at writes
      obtain ⟨first, writesFirst, later⟩ := Option.bind_eq_some_iff.mp writes
      obtain ⟨rest, writesRest, same⟩ := Option.bind_eq_some_iff.mp later
      obtain rfl : first :: rest = written := by
        simpa using same
      have next := inductionHypothesis writesRest (done ++ [first])
      rw [List.length_append, List.length_singleton, List.append_assoc] at next
      simpa [ToJsonLine.fill, writesFirst] using next

/-- Pushing back what is read of some elements. -/
theorem push_eq
    {declared : List Compiled}
    {expr : FromJsonExpr}
    {type : CppType}
    (elements : List CrowValue)
    (done : List Value) :
    FromJsonLine.push declared expr type elements done =
      (elements.mapM (expr.eval declared type)).map (done ++ ·) := by
  induction elements generalizing done with
  | nil => simp [FromJsonLine.push]
  | cons element elements inductionHypothesis =>
      rw [FromJsonLine.push, List.mapM_cons]
      cases expr.eval declared type element with
      | none => rfl
      | some value =>
          have next := inductionHypothesis (done ++ [value])
          cases read : elements.mapM (expr.eval declared type) with
          | none => simpa [read] using next
          | some values => simpa [read] using next

/-- The elements of a list are read back one by one. -/
theorem readBack_mapM
    {write : Value → Option CrowValue}
    {read : CrowValue → Option Value}
    {values : List Value}
    (each : ∀ value ∈ values, ReadBack write read value) :
    ∃ written, values.mapM write = some written ∧
      ((∀ value ∈ values, ¬Oversized value) → written.mapM read = some values) ∧
        ((∃ value ∈ values, Oversized value) → written.mapM read = none) := by
  induction values with
  | nil => exact ⟨[], rfl, fun _ => rfl, by simp⟩
  | cons value values inductionHypothesis =>
      obtain ⟨here, later⟩ := List.forall_mem_cons.mp each
      obtain ⟨first, writesFirst, readsFirst, throwsFirst⟩ := here
      obtain ⟨rest, writesRest, readsRest, throwsRest⟩ := inductionHypothesis later
      refine ⟨first :: rest, ?_, ?_, ?_⟩
      · simp [List.mapM_cons, writesFirst, writesRest]
      · intro small
        obtain ⟨smallFirst, smallRest⟩ := List.forall_mem_cons.mp small
        simp [List.mapM_cons, readsFirst smallFirst, readsRest smallRest]
      · intro large
        by_cases largeFirst : Oversized value
        · simp [List.mapM_cons, throwsFirst largeFirst]
        · obtain ⟨other, member, oversized⟩ := large
          have among := (List.mem_cons.mp member).resolve_left (by
            rintro rfl
            exact largeFirst oversized)
          simp [List.mapM_cons, readsFirst largeFirst,
            throwsRest ⟨other, among, oversized⟩]

end CycloneDDS
end StarterCpp
