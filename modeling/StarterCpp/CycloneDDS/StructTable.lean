import StarterCpp.CycloneDDS.JsonHelperGenerator
import StarterCpp.Library.Entries

/-!
# Tables of structs

The generator keeps the structs it has parsed under their names, and finds the
structs that a struct uses from the text of its fields.  The sorted names are those
of the table.  When no struct uses itself by way of others, each name stands after
those its struct uses.
-/

namespace StarterCpp
namespace CycloneDDS

open Entries

/-- The structs that the generator has parsed.  A name is matched by `\w+`, so it
has no colon, and no two structs share one. -/
structure StructTable where
  allData : List ParsedFile
  noColon : ∀ info ∈ structInfos allData, 58 ∉ info.name
  distinct : ((structInfos allData).map StructInfo.name).Nodup

/-- The name at the end of a type, or of the elements of a sequence type. -/
def baseName (idlType : Name) : Name :=
  (splitScopes (sequenceElementType idlType)).getLastD []

/-- The names that a name of `deps` is kept with, as they are iterated. -/
def structDeps
    (order : SetOrder)
    (infos : List StructInfo)
    (allStructs : List Name)
    (name : Name) : List Name :=
  match structInfo infos name with
  | some info => order.iterate name (fieldDeps allStructs info)
  | none => []

namespace StructTable

variable (table : StructTable)

def infos : List StructInfo :=
  structInfos table.allData

def allEnums : List Name :=
  table.allData.flatMap ParsedFile.enums

def allStructs : List Name :=
  table.allData.flatMap fun file => file.structs.map Prod.fst

/-- A struct has a field, or a sequence field, of another struct of the table. -/
def Uses (user used : StructInfo) : Prop :=
  user ∈ table.infos ∧ used ∈ table.infos ∧ used.name ≠ user.name ∧
    ∃ field ∈ user.fields, baseName field.1 = used.name

/-- No struct uses itself by way of others. -/
def Acyclic : Prop :=
  ∀ info, ¬Relation.TransGen table.Uses info info

/-! ## Names -/

variable {table}

theorem names_infos : table.infos.map StructInfo.name = table.allStructs := by
  rw [infos, structInfos, List.map_flatMap, allStructs]
  simp [Function.comp_def]

/-- A name of the table has one struct. -/
theorem exists_struct
    {name : Name}
    (member : name ∈ table.allStructs) :
    ∃ info ∈ table.infos, info.name = name := by
  rw [← names_infos] at member
  exact List.mem_map.mp member

theorem name_mem
    {info : StructInfo}
    (member : info ∈ table.infos) :
    info.name ∈ table.allStructs := by
  rw [← names_infos]
  exact List.mem_map_of_mem member

/-- A struct is known by its name. -/
theorem eq_of_name_eq
    {info other : StructInfo}
    (member : info ∈ table.infos)
    (otherMember : other ∈ table.infos)
    (same : other.name = info.name) :
    other = info :=
  List.inj_on_of_nodup_map table.distinct otherMember member same

/-! ## Dependencies -/

/-- A struct is found under its name. -/
theorem structInfo_of_mem
    {info : StructInfo}
    (member : info ∈ table.infos) :
    structInfo table.infos info.name = some info := by
  have distinct : (table.infos.reverse.map StructInfo.name).Nodup := by
    rw [List.map_reverse, List.nodup_reverse]
    exact table.distinct
  exact find?_of_mem distinct (List.mem_reverse.mpr member)

/-- The names that a struct depends on are those of the structs it uses. -/
theorem mem_fieldDeps
    {info : StructInfo}
    (member : info ∈ table.infos)
    {name : Name} :
    name ∈ fieldDeps table.allStructs info ↔
      ∃ used, used.name = name ∧ table.Uses info used := by
  rw [fieldDeps, List.mem_filter, List.mem_map, Bool.and_eq_true,
    List.contains_iff_mem, decide_eq_true_eq]
  constructor
  · rintro ⟨⟨field, among, base⟩, declared, different⟩
    obtain ⟨used, usedMember, rfl⟩ := exists_struct declared
    exact ⟨used, rfl, member, usedMember, different, field, among, base⟩
  · rintro ⟨used, rfl, _, usedMember, different, field, among, base⟩
    exact ⟨⟨field, among, base⟩, name_mem usedMember, different⟩

theorem mem_structDeps
    (order : SetOrder)
    {info : StructInfo}
    (member : info ∈ table.infos)
    {name : Name} :
    name ∈ structDeps order table.infos table.allStructs info.name ↔
      ∃ used, used.name = name ∧ table.Uses info used := by
  rw [structDeps, structInfo_of_mem member, ← mem_fieldDeps member]
  exact order.mem_iterate _ _ _

/-- Names are kept with names of the table. -/
theorem structDeps_closed
    (order : SetOrder)
    (name : Name)
    (member : name ∈ table.allStructs)
    (needed : Name)
    (depends : needed ∈ structDeps order table.infos table.allStructs name) :
    needed ∈ table.allStructs := by
  obtain ⟨info, among, rfl⟩ := exists_struct member
  obtain ⟨used, rfl, uses⟩ := (mem_structDeps order among).mp depends
  exact name_mem uses.2.1

/-! ## Dependencies by way of others -/

variable (order : SetOrder)

/-- What a struct uses by way of others, its name is kept with by way of others. -/
theorem transGen_structDeps
    {info used : StructInfo}
    (uses : Relation.TransGen table.Uses info used) :
    Relation.TransGen
      (fun user used => used ∈ structDeps order table.infos table.allStructs user)
      info.name used.name :=
  uses.lift StructInfo.name fun _ next step =>
    (mem_structDeps order step.1).mpr ⟨next, rfl, step⟩

/-- What a name is kept with by way of others, its struct uses by way of others. -/
theorem transGen_uses
    {info : StructInfo}
    (member : info ∈ table.infos)
    {name : Name}
    (depends : Relation.TransGen
      (fun user used => used ∈ structDeps order table.infos table.allStructs user)
      info.name name) :
    ∃ used ∈ table.infos, used.name = name ∧
      Relation.TransGen table.Uses info used := by
  induction depends with
  | single depends =>
      obtain ⟨used, rfl, uses⟩ := (mem_structDeps order member).mp depends
      exact ⟨used, uses.2.1, rfl, .single uses⟩
  | tail _ depends inductionHypothesis =>
      obtain ⟨user, among, rfl, earlier⟩ := inductionHypothesis
      obtain ⟨used, rfl, uses⟩ := (mem_structDeps order among).mp depends
      exact ⟨used, uses.2.1, rfl, earlier.tail uses⟩

/-- Names are kept with themselves only where structs use themselves. -/
theorem structDeps_acyclic
    (acyclic : table.Acyclic)
    (name : Name) :
    ¬Relation.TransGen
      (fun user used => used ∈ structDeps order table.infos table.allStructs user)
      name name := by
  intro cycle
  obtain ⟨next, depends, _⟩ := Relation.TransGen.head'_iff.mp cycle
  cases found : structInfo table.infos name with
  | none => simp [structDeps, found] at depends
  | some info =>
      have member : info ∈ table.infos :=
        List.mem_reverse.mp (List.mem_of_find?_eq_some found)
      have named : info.name = name := by
        simpa using List.find?_some found
      rw [← named] at cycle
      obtain ⟨used, among, same, uses⟩ := transGen_uses order member cycle
      rw [eq_of_name_eq member among same] at uses
      exact acyclic info uses

/-- Structs that use only structs of a smaller position do not use themselves. -/
theorem acyclic_of_position
    (position : Name → ℕ)
    (earlier : ∀ user used, table.Uses user used →
      position used.name < position user.name) :
    table.Acyclic :=
  acyclic_of_rank (fun info => position info.name) earlier

/-! ## Sorted names -/

/-- The names that `topo_sort_structs` puts in order. -/
def sortedNames (table : StructTable) (order : SetOrder) : List Name :=
  DepthFirst.sort (structDeps order table.infos table.allStructs)
    table.allStructs.length table.allStructs

/-- Each name of the table is put in order once. -/
theorem sortedNames_perm : (table.sortedNames order).Perm table.allStructs := by
  refine DepthFirst.sort_perm (structDeps_closed order) ?_
  rw [← names_infos]
  exact table.distinct

/-- Each name stands after those its struct uses, when no struct uses itself. -/
theorem sortedNames_ordered (acyclic : table.Acyclic) :
    DependencyOrder (structDeps order table.infos table.allStructs)
      (table.sortedNames order) :=
  DepthFirst.sort_ordered_of_acyclic (structDeps_closed order)
    (structDeps_acyclic order acyclic)

end StructTable

end CycloneDDS
end StarterCpp
