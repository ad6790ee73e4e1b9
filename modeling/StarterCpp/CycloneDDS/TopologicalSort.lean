import StarterCpp.CycloneDDS.HeaderRoundTrip

/-!
# The topological sort of a table

`topo_sort_structs` is a recursive search that marks a struct before it visits the
structs that its fields use.  It returns for every table, also when structs refer
to each other, and yields each struct once.  When no struct uses itself by way of
others, each stands after all it uses.
-/

namespace StarterCpp
namespace CycloneDDS

open Text

/-! ## Returns -/

/-- `topo_sort_structs` returns some structs: the recursion returns, and every name
that it has put in order is in `struct_info`. -/
def TopoSortReturns
    (order : SetOrder)
    (allData : List ParsedFile)
    (allStructs : List Name)
    (sorted : List StructInfo) : Prop :=
  ∃ search,
    DepthFirst.Returns (structDeps order (structInfos allData) allStructs) ⟨[], []⟩
      ((structInfos allData).map StructInfo.name) search ∧
    search.order.mapM (structInfo (structInfos allData)) = some sorted

/-! ## Emitted calls -/

/-- Whether a line of `toJson` calls `toJson` for the member. -/
def ToJsonLine.calls : ToJsonLine → Bool
  | .assign _ (some .call) | .loop _ .call => true
  | .assign _ none | .assign _ (some .copy) | .assign _ (some .castInt)
  | .loop _ .copy | .loop _ .castInt => false

/-- The struct for which a line of `fromJson` calls `fromJson`. -/
def FromJsonLine.called : FromJsonLine → Option CppName
  | .set _ (some (.call name)) | .loop _ (.call name) => some name
  | .set _ none | .set _ (some (.access _)) | .set _ (some (.cast _ _))
  | .set _ (some (.castEnum _)) | .loop _ (.access _) | .loop _ (.cast _ _)
  | .loop _ (.castEnum _) => none

/-- One of the lines that are emitted for a struct calls a function for a struct of
a name. -/
def RefersTo
    (allEnums allStructs : List Name)
    (info : StructInfo)
    (name : Name) : Prop :=
  ∃ field ∈ info.fields,
    ((toJsonLine allEnums allStructs field).calls = true ∧
        baseName field.1 = name) ∨
      ∃ called,
        (fromJsonLine allEnums allStructs info.module field).called = some called ∧
          called.getLastD [] = name

theorem splitScopes_ne_nil (text : Name) : splitScopes text ≠ [] := by
  fun_induction splitScopes text <;> simp_all

/-- A text that is not split is its only part. -/
theorem splitScopes_of_length
    {text : Name}
    (short : (splitScopes text).length ≤ 1) :
    splitScopes text = [text] := by
  fun_induction splitScopes text with
  | case1 => rfl
  | case2 byte => rfl
  | case3 first second rest colons inductionHypothesis =>
      have parts := List.length_pos_iff.mpr (splitScopes_ne_nil rest)
      rw [List.length_cons] at short
      omega
  | case4 first second rest _ none inductionHypothesis =>
      exact absurd none (splitScopes_ne_nil _)
  | case5 first second rest _ head tail parts inductionHypothesis =>
      rw [parts] at inductionHypothesis
      obtain ⟨rfl, rfl⟩ := List.cons.inj (inductionHypothesis short)
      rfl

/-- A qualified name ends with the last part of the name it is made of. -/
theorem getLastD_qualifiedCpp (name module : Name) :
    (qualifiedCpp name module).getLastD [] = (splitScopes name).getLastD [] := by
  unfold qualifiedCpp
  split_ifs with several
  · rfl
  · rw [splitScopes_of_length (Nat.le_of_not_lt several), cppName]
    split_ifs <;> rfl

/-- A type that is no sequence is its own element type. -/
theorem sequenceElementType_of_single
    {idlType : Name}
    (single : ¬isSequence idlType = true) :
    sequenceElementType idlType = idlType := by
  rw [isSequence, Option.not_isSome_iff_eq_none] at single
  rw [sequenceElementType, single]

section Calls

variable {enums structs : List Name}
variable {field : Name × Name}

/-- `toJson` calls for a struct and for the elements of a sequence of structs. -/
theorem calls_toJsonLine :
    (toJsonLine enums structs field).calls = true ↔
      classifyType (sequenceElementType field.1) enums structs = .struct := by
  rw [toJsonLine]
  split_ifs with sequence
  · cases kind : classifyType (sequenceElementType field.1) enums structs <;>
      simp [genToJsonSequence, kind, ToJsonLine.calls]
  · rw [sequenceElementType_of_single sequence]
    cases kind : classifyType field.1 enums structs <;>
      simp [genToJsonRhs, kind, ToJsonLine.calls]

/-- `fromJson` calls for the same structs. -/
theorem called_fromJsonLine
    {module : Name}
    {called : CppName} :
    (fromJsonLine enums structs module field).called = some called ↔
      classifyType (sequenceElementType field.1) enums structs = .struct ∧
        qualifiedCpp (sequenceElementType field.1) module = called := by
  rw [fromJsonLine]
  split_ifs with sequence
  · cases kind : classifyType (sequenceElementType field.1) enums structs <;>
      simp [genFromJsonSequence, kind, FromJsonLine.called]
  · rw [sequenceElementType_of_single sequence]
    cases kind : classifyType field.1 enums structs with
    | struct | enum | sequence => simp [genFromJsonExpr, kind, FromJsonLine.called]
    | primitive | unknown =>
        cases cast : castTypes.lookup field.1 <;>
          simp [genFromJsonExpr, kind, cast, FromJsonLine.called]

theorem refersTo_iff
    {info : StructInfo}
    {name : Name} :
    RefersTo enums structs info name ↔
      ∃ field ∈ info.fields,
        classifyType (sequenceElementType field.1) enums structs = .struct ∧
          baseName field.1 = name := by
  refine exists_congr fun field => and_congr_right fun _ => ?_
  rw [calls_toJsonLine]
  constructor
  · rintro (calls | ⟨called, calls, rfl⟩)
    · exact calls
    · obtain ⟨isStruct, rfl⟩ := called_fromJsonLine.mp calls
      exact ⟨isStruct, (getLastD_qualifiedCpp _ _).symm⟩
  · exact .inl

end Calls

namespace StructTable

variable {table : StructTable}

/-- A type that is classified as a struct ends with the name of one. -/
theorem getLastD_mem_of_classifyType
    {idlType : Name}
    {enums : List Name}
    (isStruct : classifyType idlType enums table.allStructs = .struct) :
    (splitScopes idlType).getLastD [] ∈ table.allStructs := by
  unfold classifyType at isStruct
  split_ifs at isStruct with _ _ declared _ qualified
  · have member := List.contains_iff_mem.mp declared
    obtain ⟨info, among, rfl⟩ := exists_struct member
    rw [splitScopes_of_noColon (table.noColon info among)]
    exact member
  · exact List.contains_iff_mem.mp qualified

/-- A struct is referred to for a field whose type ends with its name. -/
theorem exists_field_of_refersTo
    {enums : List Name}
    {info : StructInfo}
    {name : Name}
    (refers : RefersTo enums table.allStructs info name) :
    name ∈ table.allStructs ∧ ∃ field ∈ info.fields, baseName field.1 = name := by
  obtain ⟨field, member, isStruct, rfl⟩ := refersTo_iff.mp refers
  exact ⟨getLastD_mem_of_classifyType isStruct, field, member, rfl⟩

/-! ## Sorted structs -/

variable (order : SetOrder)

theorem topoSortStructs_eq :
    topoSortStructs order table.allData table.allStructs =
      (table.sortedNames order).filterMap (structInfo table.infos) := by
  rw [sortedNames, ← names_infos]
  rfl

/-- Finding the structs of names of the table leaves the names. -/
theorem mapM_structInfo
    {names : List Name}
    (within : ∀ name ∈ names, name ∈ table.allStructs) :
    names.mapM (structInfo table.infos) =
        some (names.filterMap (structInfo table.infos)) ∧
      (names.filterMap (structInfo table.infos)).map StructInfo.name = names := by
  induction names with
  | nil => exact ⟨rfl, rfl⟩
  | cons name names inductionHypothesis =>
      obtain ⟨here, later⟩ := List.forall_mem_cons.mp within
      obtain ⟨found, same⟩ := inductionHypothesis later
      obtain ⟨info, among, rfl⟩ := exists_struct here
      have known := structInfo_of_mem among
      constructor
      · rw [List.mapM_cons, known, found, List.filterMap_cons_some known]
        rfl
      · rw [List.filterMap_cons_some known, List.map_cons, same]

/-- The structs of the names of the table are those of the table. -/
theorem filterMap_structInfo :
    table.allStructs.filterMap (structInfo table.infos) = table.infos := by
  rw [← names_infos, List.filterMap_map]
  have found : ∀ info ∈ table.infos,
      (structInfo table.infos ∘ StructInfo.name) info = some info :=
    fun info member => structInfo_of_mem member
  rw [List.filterMap_congr found, List.filterMap_some]

theorem map_name_topoSortStructs :
    (topoSortStructs order table.allData table.allStructs).map StructInfo.name =
      table.sortedNames order := by
  rw [topoSortStructs_eq]
  exact (mapM_structInfo fun name => (sortedNames_perm order).mem_iff.mp).2

theorem topoSortStructs_perm :
    (topoSortStructs order table.allData table.allStructs).Perm table.infos := by
  rw [topoSortStructs_eq]
  exact ((sortedNames_perm order).filterMap _).trans (.of_eq filterMap_structInfo)

/-- The recursion returns, and what it yields is the sorted structs. -/
theorem topoSortReturns_iff (sorted : List StructInfo) :
    TopoSortReturns order table.allData table.allStructs sorted ↔
      sorted = topoSortStructs order table.allData table.allStructs := by
  have closed : ∀ name ∈ table.allStructs,
      ∀ needed ∈ structDeps order table.infos table.allStructs name,
        needed ∈ table.allStructs :=
    structDeps_closed order
  obtain ⟨search, returns, same⟩ := DepthFirst.returns_sort closed
  have within : ∀ name ∈ search.order, name ∈ table.allStructs := by
    rw [same]
    exact fun name => (sortedNames_perm order).mem_iff.mp
  have found : search.order.mapM (structInfo table.infos) =
      some (topoSortStructs order table.allData table.allStructs) := by
    rw [(mapM_structInfo within).1, topoSortStructs_eq, sortedNames, same]
  have returnsNames : DepthFirst.Returns
      (structDeps order table.infos table.allStructs) ⟨[], []⟩
      (table.infos.map StructInfo.name) search := by
    rwa [names_infos]
  constructor
  · rintro ⟨other, returnsOther, foundOther⟩
    obtain rfl := returnsNames.unique returnsOther
    exact Option.some.inj (foundOther.symm.trans found)
  · rintro rfl
    exact ⟨search, returnsNames, found⟩

/-- Each struct stands after all it uses, when none uses itself. -/
theorem mem_before_of_transGen
    (acyclic : table.Acyclic)
    {before after : List StructInfo}
    {info used : StructInfo}
    (split : topoSortStructs order table.allData table.allStructs =
      before ++ info :: after)
    (uses : Relation.TransGen table.Uses info used) :
    used ∈ before := by
  have ordered := sortedNames_ordered order acyclic
  have names : table.sortedNames order =
      before.map StructInfo.name ++ info.name :: after.map StructInfo.name := by
    rw [← map_name_topoSortStructs, split, List.map_append, List.map_cons]
  obtain ⟨earlier, inBefore, same⟩ := List.mem_map.mp
    (ordered.mem_before_of_transGen names (transGen_structDeps order uses))
  have among : earlier ∈ table.infos := by
    rw [← (topoSortStructs_perm order).mem_iff, split]
    exact List.mem_append_left _ inBefore
  have usedAmong : used ∈ table.infos := by
    obtain ⟨user, _, step⟩ := Relation.TransGen.tail'_iff.mp uses
    exact step.2.1
  rwa [← eq_of_name_eq usedAmong among same]

/-- A function refers to its own struct or to one that the struct uses. -/
theorem uses_of_refersTo
    {info : StructInfo}
    (member : info ∈ table.infos)
    {name : Name}
    (refers : RefersTo table.allEnums table.allStructs info name)
    (other : name ≠ info.name) :
    ∃ used, used.name = name ∧ table.Uses info used := by
  obtain ⟨declared, field, among, base⟩ := exists_field_of_refersTo refers
  obtain ⟨used, usedAmong, rfl⟩ := exists_struct declared
  exact ⟨used, rfl, member, usedAmong, other, field, among, base⟩

end StructTable

/-! ## The sort -/

/-- `topo_sort_structs` returns for every table and yields each struct once.  When
no struct uses itself by way of others, each stands after all it uses, so that its
functions refer to functions that are emitted before them or to themselves. -/
theorem StructTable.topoSortStructs_sorts
    (table : StructTable)
    (order : SetOrder) :
    (∀ sorted, TopoSortReturns order table.allData table.allStructs sorted ↔
      sorted = topoSortStructs order table.allData table.allStructs) ∧
    (topoSortStructs order table.allData table.allStructs).Perm table.infos ∧
    (table.Acyclic → ∀ before info after,
      topoSortStructs order table.allData table.allStructs =
          before ++ info :: after →
        (∀ used, Relation.TransGen table.Uses info used → used ∈ before) ∧
        ∀ name, RefersTo table.allEnums table.allStructs info name →
          name = info.name ∨ ∃ earlier ∈ before, earlier.name = name) := by
  refine ⟨topoSortReturns_iff order, topoSortStructs_perm order, ?_⟩
  intro acyclic before info after split
  have stands : ∀ used, Relation.TransGen table.Uses info used → used ∈ before :=
    fun used uses => mem_before_of_transGen order acyclic split uses
  refine ⟨stands, fun name refers => ?_⟩
  have member : info ∈ table.infos := by
    rw [← (topoSortStructs_perm order).mem_iff, split]
    exact List.mem_append_right _ List.mem_cons_self
  by_cases own : name = info.name
  · exact .inl own
  · obtain ⟨used, rfl, uses⟩ := uses_of_refersTo member refers own
    exact .inr ⟨used, stands used (.single uses), rfl⟩

/-- The structs of the commands. -/
def commandTable : StructTable where
  allData := commandSchema.allData
  noColon := by decide
  distinct := by decide

theorem commandTable_acyclic : commandTable.Acyclic := by
  have earlier : ∀ user ∈ commandTable.infos, ∀ used ∈ commandTable.infos,
      (∃ field ∈ user.fields, baseName field.1 = used.name) →
        user = command.info ∧ used = messageHeader.info := by
    decide
  refine StructTable.acyclic_of_position
    (fun name => if name = command.name then 1 else 0) ?_
  rintro user used ⟨userMember, usedMember, _, uses⟩
  obtain ⟨rfl, rfl⟩ := earlier user userMember used usedMember uses
  decide

/-- The header of a command stands before the command, which is parsed first. -/
theorem topoSortStructs_commandSchema :
    commandTable.infos = [command.info, messageHeader.info] ∧
      TopoSortReturns ⟨fun _ => id, fun _ _ _ => Iff.rfl⟩ commandSchema.allData
        commandTable.allStructs [messageHeader.info, command.info] ∧
      messageHeader.info ∈ [messageHeader.info] := by
  have sorts := StructTable.topoSortStructs_sorts commandTable
    ⟨fun _ => id, fun _ _ _ => Iff.rfl⟩
  have sorted : topoSortStructs ⟨fun _ => id, fun _ _ _ => Iff.rfl⟩
      commandTable.allData commandTable.allStructs =
        [messageHeader.info] ++ command.info :: [] := by
    decide
  have uses : commandTable.Uses command.info messageHeader.info := by
    unfold StructTable.Uses
    decide
  exact ⟨by decide, (sorts.1 _).mpr sorted.symm,
    (sorts.2.2 commandTable_acyclic _ _ _ sorted).1 _ (.single uses)⟩

example :
    (topoSortStructs ⟨fun _ => id, fun _ _ _ => Iff.rfl⟩
      [⟨[], [], [(ascii "First", [(ascii "Second", ascii "second")]),
        (ascii "Second", [(ascii "sequence<First>", ascii "firsts")])]⟩]
      [ascii "First", ascii "Second"]).map StructInfo.name =
        [ascii "Second", ascii "First"] := by
  decide

/-- A struct with a sequence of itself. -/
def node : StructInfo where
  module := ascii "dds_messages"
  name := ascii "Node"
  fields := [(ascii "sequence<Node>", ascii "children")]

def nodeTable : StructTable where
  allData := [⟨node.module, [], [(node.name, node.fields)]⟩]
  noColon := by decide
  distinct := by decide

/-- A struct that uses no other may refer to its own functions, which nothing
stands before. -/
theorem refersTo_node :
    nodeTable.Acyclic ∧
      topoSortStructs ⟨fun _ => id, fun _ _ _ => Iff.rfl⟩ nodeTable.allData
          nodeTable.allStructs = [] ++ node :: [] ∧
      ¬∀ name, RefersTo nodeTable.allEnums nodeTable.allStructs node name →
        ∃ earlier ∈ ([] : List StructInfo), earlier.name = name := by
  refine ⟨?_, by decide, ?_⟩
  · refine StructTable.acyclic_of_position (fun _ => 0) ?_
    rintro user used ⟨userMember, usedMember, different, _⟩
    obtain rfl : user = node := by
      simpa [nodeTable, StructTable.infos, structInfos] using userMember
    obtain rfl : used = node := by
      simpa [nodeTable, StructTable.infos, structInfos] using usedMember
    exact absurd rfl different
  · intro before
    have refers : RefersTo nodeTable.allEnums nodeTable.allStructs node node.name :=
      ⟨_, List.mem_cons_self, .inl ⟨by decide, by decide⟩⟩
    simpa using before node.name refers

end CycloneDDS
end StarterCpp
