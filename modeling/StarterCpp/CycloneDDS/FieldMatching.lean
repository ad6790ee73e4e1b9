import StarterCpp.CycloneDDS.DeclarationMatching

/-!
# Finding the fields

The type of a field is matched lazily, by bytes that may also be white space and
parts of names.  The semicolon after the name makes the last word the name, so all
that comes before it is the type, with the white space of the line before it.
-/

namespace StarterCpp
namespace CycloneDDS

open Text

/-! ## Characters -/

theorem isTypeByte_not_mark
    {byte : UInt8}
    (typeByte : isTypeByte byte = true) :
    byte ∉ marks := by
  have reads : ∀ number < 256, isTypeByte (UInt8.ofNat number) = true →
      UInt8.ofNat number ∉ marks := by
    decide +kernel
  have read := reads byte.toNat byte.toNat_lt
  rw [UInt8.ofNat_toNat] at read
  exact read typeByte

theorem isTypeByte_of_isSpace
    {byte : UInt8}
    (space : isSpace byte = true) :
    isTypeByte byte = true := by
  simp [isTypeByte, space]

/-! ## The type and the name -/

theorem reTypeAndName_eq :
    reTypeAndName = .append (.group 1 (.lazyPlus (.symbol isTypeByte)))
      (reName 2 [.literal (ascii ";")]) :=
  rfl

/-- What a field captures: its type, with the white space before it, and its name. -/
def capturedField (type : Name) (heading : Heading) : Regex.Captures UInt8 :=
  Function.update (Function.update (fun _ => []) 1 type) 2 heading.name

@[simp] theorem capturedField_one (type : Name) (heading : Heading) :
    capturedField type heading 1 = type := by
  simp [capturedField, Function.update]

@[simp] theorem capturedField_two (type : Name) (heading : Heading) :
    capturedField type heading 2 = heading.name := by
  simp [capturedField]

theorem consumes_reNamed
    {consumed : Name}
    (consumes : (reName 2 [.literal (ascii ";")]).Consumes consumed) :
    ∃ heading : Heading, consumed = heading.text [] ++ [59] := by
  obtain ⟨heading, rest, rfl, consumesRest⟩ := consumes_reName consumes
  simp only [Regex.concat_cons, Regex.concat_nil, Regex.consumes_append_iff,
    Regex.consumes_literal_iff, Regex.consumes_empty_iff] at consumesRest
  obtain ⟨_, _, rfl, rfl, rfl⟩ := consumesRest
  exact ⟨heading, rfl⟩

theorem consumes_reTypeAndName
    {consumed : Name}
    (consumes : reTypeAndName.Consumes consumed) :
    ∃ type, ∃ heading : Heading, (∀ byte ∈ type, isTypeByte byte = true) ∧
      consumed = heading.text type ++ [59] := by
  rw [reTypeAndName_eq, Regex.consumes_append_iff] at consumes
  obtain ⟨type, _, rfl, consumesType, consumesNamed⟩ := consumes
  obtain ⟨heading, rfl⟩ := consumes_reNamed consumesNamed
  rw [Regex.consumes_group_iff, Regex.consumes_lazyPlus_symbol_iff] at consumesType
  exact ⟨type, heading, consumesType.2, by simp [Heading.text]⟩

/-- A name does not begin within the type. -/
theorem run_reNamed_eq_none
    {Result : Type*}
    {after : Name}
    (heading : Heading)
    (rest : Name)
    (nonempty : after ≠ [])
    (typeByte : ∀ byte ∈ after, isTypeByte byte = true)
    (last : ∀ byte ∈ after.getLast?, isSpace byte = false)
    (captures : Regex.Captures UInt8)
    (next : Regex.Continuation UInt8 Result) :
    (reName 2 [.literal (ascii ";")]).run
      (after ++ (heading.text [] ++ 59 :: rest)) captures next = none := by
  refine Regex.run_eq_none ?_
  intro consumed remaining _ same consumes
  obtain ⟨otherHeading, rfl⟩ := consumes_reNamed consumes
  have noSemicolon : 59 ∉ heading.text after :=
    heading.not_mem_text (by decide) fun member =>
      isTypeByte_not_mark (typeByte 59 member) (by decide)
  have otherNoSemicolon : 59 ∉ otherHeading.text [] :=
    otherHeading.not_mem_text (by decide) List.not_mem_nil
  have texts := split_of_notMem noSemicolon otherNoSemicolon
    (by simpa [Heading.text] using same)
  have aligned := Heading.eq_of_append_eq last (by simp) texts.1
  exact absurd aligned.1 nonempty

/-- A type is matched up to the name and the semicolon. -/
theorem run_reTypeAndName
    {Result : Type*}
    {type : Name}
    (heading : Heading)
    (rest : Name)
    (nonempty : type ≠ [])
    (typeByte : ∀ byte ∈ type, isTypeByte byte = true)
    (last : ∀ byte ∈ type.getLast?, isSpace byte = false)
    {next : Regex.Continuation UInt8 Result}
    {result : Result}
    (matched : next rest (capturedField type heading) = some result) :
    reTypeAndName.run (heading.text type ++ 59 :: rest) (fun _ => []) next =
      some result := by
  have text : heading.text type ++ 59 :: rest =
      type ++ (heading.text [] ++ 59 :: rest) := by
    simp [Heading.text]
  rw [text, reTypeAndName_eq, Regex.run_append]
  refine Regex.run_group (Regex.run_lazyPlus_symbol nonempty typeByte ?_ ?_)
  · intro before after split _ afterNonempty
    refine run_reNamed_eq_none heading rest afterNonempty ?_ ?_ _ _
    · intro byte member
      exact typeByte byte (by simp [split, member])
    · rw [split, List.getLast?_append_of_ne_nil _ afterNonempty] at last
      exact last
  rw [Regex.take_consumed]
  refine run_reName heading (by decide) rest ?_
  exact matched

/-! ## Annotations -/

theorem consumes_annotations
    {consumed : Name}
    (consumes : (Regex.star reTag).Consumes consumed) :
    consumed = [] ∨ ∃ rest, consumed = 64 :: rest := by
  cases consumes with
  | starNil => exact .inl rfl
  | starCons consumesFirst =>
      simp only [reTag, Regex.concat_cons, Regex.consumes_append_iff,
        Regex.consumes_literal_iff] at consumesFirst
      obtain ⟨_, rest, rfl, rfl, -⟩ := consumesFirst
      exact .inr ⟨_, rfl⟩

/-- What follows an annotation: another one, or a type. -/
def FollowsTag (rest : Name) : Prop :=
  ∀ byte ∈ rest.head?, isSpace byte = false ∧ byte ≠ 40

namespace Tag

/-- The arguments of an annotation are matched when it has any. -/
theorem run_arguments
    {Result : Type*}
    (tag : Tag)
    {rest : Name}
    (follows : FollowsTag rest)
    {captures : Regex.Captures UInt8}
    {next : Regex.Continuation UInt8 Result}
    {result : Result}
    (matched : next (tag.gap ++ rest) captures = some result) :
    (Regex.optional reArguments).run
      (tag.argumentsText ++ (tag.gap ++ rest)) captures next =
        some result := by
  cases written : tag.arguments with
  | none =>
      simp only [argumentsText, written, List.nil_append]
      refine Regex.run_optional_absent ?_ matched
      intro consumed after same consumes
      simp only [reArguments, Regex.concat_cons, Regex.consumes_append_iff, space,
        Regex.consumes_star_symbol_iff, Regex.consumes_literal_iff] at consumes
      obtain ⟨blank, _, rfl, blankSpace, _, arguments, rfl, rfl, -⟩ := consumes
      -- The parenthesis would be the first byte after the white space.
      have opened : tag.gap ++ rest = blank ++ 40 :: (arguments ++ after) := by
        simpa [ascii] using same
      have split := split_of_head tag.gap_space blankSpace
        (fun byte isHead => (follows byte isHead).1) (by simp [isSpace]) opened
      exact (follows 40 (by rw [split.2]; rfl)).2 rfl
  | some parts =>
      obtain ⟨blank, arguments⟩ := parts
      have blankSpace := tag.blank_space (blank, arguments) written
      have plain := (tag.arguments_plain (blank, arguments) written).1
      have text : tag.argumentsText ++ (tag.gap ++ rest) =
          blank ++ (ascii "(" ++ (arguments ++ (ascii ")" ++
            (tag.gap ++ rest)))) := by
        simp [argumentsText, written, ascii]
      rw [text]
      refine Regex.run_optional_present ?_
      simp only [reArguments, Regex.concat_cons, Regex.concat_nil, Regex.run_append]
      refine Regex.run_star_symbol blankSpace (by simp [isSpace, ascii]) ?_
      rw [Regex.run_literal]
      refine Regex.run_star_symbol ?_ (by simp [ascii]) ?_
      · intro byte member
        simpa using fun same : byte = 41 => plain (same ▸ member)
      rw [Regex.run_literal]
      exact matched

theorem run_reTag
    {Result : Type*}
    (tag : Tag)
    {rest : Name}
    (follows : FollowsTag rest)
    {captures : Regex.Captures UInt8}
    {next : Regex.Continuation UInt8 Result}
    {result : Result}
    (matched : next rest captures = some result) :
    reTag.run (tag.text ++ rest) captures next = some result := by
  simp only [reTag, Regex.concat_cons, Regex.concat_nil, Regex.run_append,
    text, List.cons_append, List.append_assoc]
  refine (Regex.run_literal (ascii "@") _).trans ?_
  refine Regex.run_plus_symbol tag.name_ne_nil tag.name_word ?_ ?_
  · intro first isHead
    obtain ⟨space, gap, spaces⟩ := List.exists_cons_of_ne_nil tag.gap_ne_nil
    have spaceFirst := tag.gap_space space (by simp [spaces])
    cases written : tag.arguments with
    | none =>
        obtain rfl : space = first := by
          simpa [argumentsText, written, spaces] using isHead
        exact isWord_eq_false spaceFirst
    | some parts =>
        obtain ⟨blank, arguments⟩ := parts
        have blankSpace := tag.blank_space (blank, arguments) written
        cases blank with
        | nil =>
            obtain rfl : 40 = first := by
              simpa [argumentsText, written] using isHead
            rfl
        | cons other blank =>
            obtain rfl : other = first := by
              simpa [argumentsText, written] using isHead
            exact isWord_eq_false (blankSpace other List.mem_cons_self)
  refine tag.run_arguments follows ?_
  refine Regex.run_plus_symbol tag.gap_ne_nil tag.gap_space ?_ matched
  exact fun first isHead => (follows first isHead).1

/-- An annotation follows an annotation. -/
theorem followsTag (tag : Tag) (rest : Name) :
    FollowsTag (tag.text ++ rest) := by
  intro first isHead
  obtain rfl : 64 = first := by simpa [text] using isHead
  decide

end Tag

/-- All annotations before a type are matched. -/
theorem run_annotations
    {Result : Type*}
    (annotations : List Tag)
    {rest : Name}
    (follows : annotations ≠ [] → FollowsTag rest)
    (solid : 64 ∉ rest.head?)
    {captures : Regex.Captures UInt8}
    {next : Regex.Continuation UInt8 Result}
    {result : Result}
    (matched : next rest captures = some result) :
    (Regex.star reTag).run (annotations.flatMap Tag.text ++ rest)
      captures next = some result := by
  induction annotations with
  | nil =>
      refine Regex.run_star_stop ?_ matched
      intro consumed after same consumes
      simp only [reTag, Regex.concat_cons, Regex.consumes_append_iff,
        Regex.consumes_literal_iff] at consumes
      obtain ⟨_, _, rfl, rfl, -⟩ := consumes
      refine solid ?_
      rw [List.flatMap_nil, List.nil_append] at same
      rw [same]
      rfl
  | cons tag annotations inductionHypothesis =>
      have followsRest := follows (List.cons_ne_nil _ _)
      have followsFirst :
          FollowsTag (annotations.flatMap Tag.text ++ rest) := by
        cases annotations with
        | nil => exact followsRest
        | cons other annotations =>
            rw [List.flatMap_cons, List.append_assoc]
            exact other.followsTag _
      rw [List.flatMap_cons, List.append_assoc]
      refine Regex.run_star_cons (tag.run_reTag followsFirst ?_)
      rw [if_pos (by simp [Tag.text]; omega)]
      exact inductionHypothesis fun _ => followsRest

/-! ## Fields -/

theorem consumes_reField
    {consumed : Name}
    (consumes : reField.Consumes consumed) :
    ∃ annotations type, ∃ heading : Heading,
      (annotations = [] ∨ ∃ rest, annotations = 64 :: rest) ∧
        (∀ byte ∈ type, isTypeByte byte = true) ∧
          consumed = annotations ++ (heading.text type ++ [59]) := by
  rw [reField, Regex.consumes_append_iff] at consumes
  obtain ⟨annotations, _, rfl, consumesAnnotations, consumesType⟩ := consumes
  obtain ⟨type, heading, typeByte, rfl⟩ := consumes_reTypeAndName consumesType
  exact ⟨annotations, type, heading, consumes_annotations consumesAnnotations,
    typeByte, rfl⟩

/-- No field is found in white space. -/
theorem findAll_space
    {tail : Name}
    (tailSpace : ∀ byte ∈ tail, isSpace byte = true) :
    reField.findAll 0 tail = [] := by
  refine Regex.findAll_eq_nil ?_
  intro before after split _
  refine Regex.matchAt_eq_none ?_
  intro consumed rest same consumes
  obtain ⟨annotations, type, heading, -, -, rfl⟩ := consumes_reField consumes
  have semicolon : 59 ∈ tail := by
    rw [split, ← List.append_nil after, same]
    simp
  exact isSpace_not_mark (tailSpace 59 semicolon) (by decide)

/-- White space before an annotation is passed over. -/
theorem passes_lead
    {lead : Name}
    (leadSpace : ∀ byte ∈ lead, isSpace byte = true)
    (rest : Name) :
    reField.Passes lead (64 :: rest) := by
  intro before after split nonempty
  refine Regex.matchAt_eq_none ?_
  intro consumed remaining same consumes
  obtain ⟨annotations, type, heading, begins, typeByte, rfl⟩ :=
    consumes_reField consumes
  have afterSpace : ∀ byte ∈ after, isSpace byte = true := by
    intro byte member
    exact leadSpace byte (by simp [split, member])
  rcases begins with rfl | ⟨others, rfl⟩
  · -- What is consumed has no tag, so it ends within the white space.
    have noTag : 64 ∉ after := fun member =>
      isSpace_not_mark (afterSpace 64 member) (by decide)
    have noTagConsumed : 64 ∉ heading.text type ++ [59] := by
      rw [List.mem_append, not_or]
      exact ⟨heading.not_mem_text (by decide) fun member =>
        isTypeByte_not_mark (typeByte 64 member) (by decide), by decide⟩
    rcases List.append_eq_append_iff.mp same with
      ⟨middle, consumedSplit, restSplit⟩ | ⟨middle, afterSplit, -⟩
    · rw [List.nil_append] at consumedSplit
      cases middle with
      | nil =>
          rw [List.append_nil] at consumedSplit
          have semicolon : 59 ∈ after := by
            rw [← consumedSplit]
            simp
          exact isSpace_not_mark (afterSpace 59 semicolon) (by decide)
      | cons first middle =>
          obtain ⟨rfl, -⟩ := List.cons.inj restSplit
          rw [consumedSplit] at noTagConsumed
          simp at noTagConsumed
    · have semicolon : 59 ∈ after := by
        rw [afterSplit]
        simp
      exact isSpace_not_mark (afterSpace 59 semicolon) (by decide)
  · obtain ⟨first, after, rfl⟩ := List.exists_cons_of_ne_nil nonempty
    obtain ⟨rfl, -⟩ := List.cons.inj same
    exact isSpace_not_mark (afterSpace 64 List.mem_cons_self) (by decide)

/-- The white space before a type is stripped. -/
theorem IsTypeText.strip_append
    {type : Name}
    (isType : IsTypeText type)
    {lead : Name}
    (leadSpace : ∀ byte ∈ lead, isSpace byte = true) :
    strip (lead ++ type) = type := by
  have keeps : ∀ text : Name, (∀ byte ∈ text.head?, isSpace byte = false) →
      text.dropWhile isSpace = text := by
    intro text solid
    cases text with
    | nil => rfl
    | cons first rest =>
        rw [List.dropWhile_cons_of_neg]
        simp [solid first rfl]
  rw [strip, List.dropWhile_append_of_pos leadSpace, keeps type isType.head_solid,
    keeps type.reverse, List.reverse_reverse]
  simpa only [List.head?_reverse] using isType.last_solid

namespace FieldLayout

/-- The first byte of a type with white space before it is no mark. -/
theorem head?_not_mark
    (field : FieldLayout)
    {lead : Name}
    (leadSpace : ∀ byte ∈ lead, isSpace byte = true)
    (rest : Name) :
    ∀ byte ∈ (lead ++ field.type ++ rest).head?, byte ∉ marks := by
  intro byte isHead
  have nonempty : lead ++ field.type ≠ [] := by
    simp [field.type_text.nonempty]
  rw [List.head?_append_of_ne_nil _ nonempty] at isHead
  rcases List.mem_append.mp (List.mem_of_mem_head? isHead) with inLead | inType
  · exact isSpace_not_mark (leadSpace byte inLead)
  · exact isTypeByte_not_mark (field.type_text.typeByte byte inType)

/-- A type, with white space before it or annotations, is matched up to the
semicolon. -/
theorem matchAt_reField
    (field : FieldLayout)
    (annotations : List Tag)
    {lead : Name}
    (leadSpace : ∀ byte ∈ lead, isSpace byte = true)
    (apart : annotations ≠ [] → lead = [])
    (rest : Name) :
    reField.matchAt (annotations.flatMap Tag.text ++
        (field.heading.text (lead ++ field.type) ++ 59 :: rest)) =
      some (capturedField (lead ++ field.type) field.heading, rest) := by
  have isType := field.type_text
  have text : field.heading.text (lead ++ field.type) ++ 59 :: rest =
      lead ++ field.type ++ (field.heading.text [] ++ 59 :: rest) := by
    simp [Heading.text]
  have heads := field.head?_not_mark leadSpace (field.heading.text [] ++ 59 :: rest)
  rw [← text] at heads
  refine run_annotations annotations ?_ ?_ ?_
  · intro annotated first isHead
    refine ⟨?_, fun same => heads first isHead (same ▸ by decide)⟩
    obtain rfl := apart annotated
    rw [text, List.append_assoc, List.nil_append,
      List.head?_append_of_ne_nil _ isType.nonempty] at isHead
    exact isType.head_solid first isHead
  · intro isHead
    exact heads 64 isHead (by decide)
  · refine run_reTypeAndName field.heading rest (by simp [isType.nonempty]) ?_ ?_ rfl
    · intro byte member
      rcases List.mem_append.mp member with inLead | inType
      · exact isTypeByte_of_isSpace (leadSpace byte inLead)
      · exact isType.typeByte byte inType
    · rw [List.getLast?_append_of_ne_nil _ isType.nonempty]
      exact isType.last_solid

/-- A field is found with its type and its name. -/
theorem findAll_reField (field : FieldLayout) (rest : Name) :
    ∃ groups, parseField groups = field.parsed ∧
      reField.findAll 0 (field.text ++ rest) = groups :: reField.findAll 0 rest := by
  have semicolon : ∀ before : Name, before ++ [59] ≠ [] := by
    intro before
    simp
  cases annotated : field.annotations with
  | nil =>
      have matched := field.matchAt_reField [] field.lead_space (by simp) rest
      refine ⟨capturedField (field.lead ++ field.type) field.heading, ?_, ?_⟩
      · simp [parseField, parsed, field.type_text.strip_append field.lead_space]
      · have text : field.text ++ rest =
            field.heading.text (field.lead ++ field.type) ++ [59] ++ rest := by
          simp [FieldLayout.text, declaration, annotated, Heading.text]
        rw [text]
        refine Regex.findAll_of_matchAt (semicolon _) ?_
        simpa using matched
  | cons tag annotations =>
      have noLead : ∀ byte ∈ ([] : Name), isSpace byte = true := by
        simp
      have matched := field.matchAt_reField field.annotations noLead (fun _ => rfl) rest
      refine ⟨capturedField field.type field.heading, ?_, ?_⟩
      · have stripped := field.type_text.strip_append noLead
        rw [List.nil_append] at stripped
        simp [parseField, parsed, stripped]
      · have text : field.text ++ rest = field.lead ++
            (field.annotations.flatMap Tag.text ++ field.declaration ++ rest) := by
          simp [FieldLayout.text]
        have begins : ∃ others, field.annotations.flatMap Tag.text ++
            field.declaration ++ rest = 64 :: others := by
          rw [annotated]
          exact ⟨_, rfl⟩
        obtain ⟨others, begins⟩ := begins
        rw [text, begins, Regex.findAll_append (passes_lead field.lead_space others),
          ← begins]
        refine Regex.findAll_of_matchAt ?_ ?_
        · simp [declaration]
        · simpa [declaration] using matched

end FieldLayout

/-- The fields of a struct are found in their order. -/
theorem findAll_fields
    (fields : List FieldLayout)
    {tail : Name}
    (tailSpace : ∀ byte ∈ tail, isSpace byte = true) :
    (reField.findAll 0 (fields.flatMap FieldLayout.text ++ tail)).map parseField =
      fields.map FieldLayout.parsed := by
  induction fields with
  | nil => simp [findAll_space tailSpace]
  | cons field fields inductionHypothesis =>
      obtain ⟨groups, parsed, found⟩ :=
        field.findAll_reField (fields.flatMap FieldLayout.text ++ tail)
      rw [List.flatMap_cons, List.append_assoc, found, List.map_cons, parsed,
        inductionHypothesis, List.map_cons]

end CycloneDDS
end StarterCpp
