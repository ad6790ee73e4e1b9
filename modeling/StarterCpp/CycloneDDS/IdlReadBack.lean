import StarterCpp.CycloneDDS.FieldMatching

/-!
# Reading back IDL files

A file that is laid out as IDL is parsed to its module, its enumerations, and its
structs with their fields, whatever comments stand in it.
-/

namespace StarterCpp
namespace CycloneDDS

open Text

/-! ## Comments -/

/-- A literal at the start of a pattern is a prefix of what is matched. -/
theorem prefix_of_consumes
    {start : Name}
    {pattern : Regex UInt8}
    {text consumed rest : Name}
    (same : text = consumed ++ rest)
    (consumes : (Regex.append (.literal start) pattern).Consumes consumed) :
    start <+: text := by
  rw [Regex.consumes_append_iff] at consumes
  obtain ⟨_, others, rfl, consumesStart, -⟩ := consumes
  obtain rfl := Regex.consumes_literal_iff.mp consumesStart
  exact ⟨others ++ rest, by rw [same, List.append_assoc]⟩

/-- A text in which a literal does not begin is passed over. -/
theorem passes_of_not_prefix
    {start : Name}
    {pattern : Regex UInt8}
    {lead rest : Name}
    (absent : ∀ before after, lead = before ++ after → after ≠ [] →
      ¬start <+: after ++ rest) :
    (Regex.append (.literal start) pattern).Passes lead rest := by
  intro before after split nonempty
  refine Regex.matchAt_eq_none ?_
  intro consumed remaining same consumes
  exact absent before after split nonempty (prefix_of_consumes same consumes)

/-- A text that begins with two symbols either ends after the first one or goes on
with the second one. -/
theorem pair_of_append_eq
    {first second : UInt8}
    {others after rest : Name}
    (nonempty : after ≠ [])
    (same : first :: second :: others = after ++ rest) :
    after = [first] ∨ ∃ later, after = first :: second :: later := by
  rcases after with _ | ⟨head, _ | ⟨next, later⟩⟩
  · exact absurd rfl nonempty
  · exact .inl (by rw [(List.cons.inj same).1])
  · obtain ⟨heads, tails⟩ := List.cons.inj same
    exact .inr ⟨later, by rw [heads, (List.cons.inj tails).1]⟩

/-- No comment begins in a text without slashes. -/
theorem passes_code
    {pattern : Regex UInt8}
    {second : UInt8}
    {text : Name}
    (noSlash : 47 ∉ text)
    (rest : Name) :
    (Regex.append (.literal [47, second]) pattern).Passes text rest := by
  refine passes_of_not_prefix ?_
  rintro before after split nonempty ⟨others, same⟩
  refine noSlash ?_
  rcases pair_of_append_eq nonempty same with rfl | ⟨later, rfl⟩
  · simp [split]
  · simp [split]

namespace Piece

/-- A part of a file without block comments. -/
def withoutBlocks : Piece → Name
  | .code text => text
  | .block _ => []
  | .line body => ascii "//" ++ body ++ [newline]

theorem ascii_opens : ascii "/*" = [47, 42] :=
  rfl

theorem ascii_closes : ascii "*/" = [42, 47] :=
  rfl

theorem ascii_line : ascii "//" = [47, 47] :=
  rfl

/-- A block comment is matched up to its end. -/
theorem matchAt_reBlockComment
    {body : Name}
    (closed : ¬ascii "*/" <:+: body)
    (rest : Name) :
    reBlockComment.matchAt (ascii "/*" ++ body ++ ascii "*/" ++ rest) =
      some (fun _ => [], rest) := by
  simp only [reBlockComment, Regex.matchAt, Regex.concat_cons, Regex.concat_nil,
    Regex.run_append, List.append_assoc, Regex.run_literal]
  refine Regex.run_lazyStar_symbol (by simp) ?_ ?_
  · intro before after split nonempty
    refine Regex.run_eq_none ?_
    intro consumed remaining _ same consumes
    obtain rfl := Regex.consumes_literal_iff.mp consumes
    rw [ascii_closes] at closed same
    rcases pair_of_append_eq nonempty same.symm with rfl | ⟨later, rfl⟩
    · -- The end cannot lie across the end of the body.
      simp at same
    · exact absurd ⟨before, later, by simp [split]⟩ closed
  · rw [Regex.run_literal]
    rfl

/-- No block comment begins in a line comment. -/
theorem passes_line
    {body : Name}
    (opens : ¬ascii "/*" <:+: 47 :: body)
    (rest : Name) :
    reBlockComment.Passes (ascii "//" ++ body ++ [newline]) rest := by
  refine passes_of_not_prefix ?_
  rintro before after split nonempty ⟨others, same⟩
  rw [ascii_opens] at opens same
  rw [ascii_line] at split
  rcases pair_of_append_eq nonempty same with rfl | ⟨later, rfl⟩
  · have ends := List.append_inj_right' split rfl
    simp [newline] at ends
  · rcases List.eq_nil_or_concat' later with rfl | ⟨later, last, rfl⟩
    · have ends := congrArg List.getLast? split
      rw [List.getLast?_append_of_ne_nil _ (List.cons_ne_nil _ _),
        List.getLast?_append_of_ne_nil _ (List.cons_ne_nil _ _)] at ends
      simp [newline] at ends
    · have texts : ([47, 47] ++ body) ++ [newline] =
          (before ++ 47 :: 42 :: later) ++ [last] := by
        simpa using split
      have inBody := List.append_inj_left' texts rfl
      cases before with
      | nil => simp at inBody
      | cons first before =>
          obtain ⟨-, inBody⟩ := List.cons.inj inBody
          exact opens ⟨before, later, by simpa using inBody.symm⟩

theorem replaceAll_source
    {piece : Piece}
    (wellFormed : piece.WellFormed)
    (rest : Name) :
    reBlockComment.replaceAll [] 0 (piece.source ++ rest) =
      piece.withoutBlocks ++ reBlockComment.replaceAll [] 0 rest := by
  cases piece with
  | code text => exact Regex.replaceAll_append (passes_code wellFormed rest)
  | block body =>
      exact Regex.replaceAll_of_matchAt (by simp [source, ascii_opens])
        (matchAt_reBlockComment wellFormed rest)
  | line body => exact Regex.replaceAll_append (passes_line wellFormed.2 rest)

theorem replaceAll_withoutBlocks
    {piece : Piece}
    (wellFormed : piece.WellFormed)
    (rest : Name) :
    reLineComment.replaceAll [] 0 (piece.withoutBlocks ++ rest) =
      piece.clean ++ reLineComment.replaceAll [] 0 rest := by
  cases piece with
  | code text => exact Regex.replaceAll_append (passes_code wellFormed rest)
  | block body => rfl
  | line body =>
      have text : withoutBlocks (.line body) ++ rest =
          (ascii "//" ++ body) ++ (newline :: rest) := by
        simp [withoutBlocks]
      have matched : reLineComment.matchAt (ascii "//" ++ body ++ newline :: rest) =
          some (fun _ => [], newline :: rest) := by
        rw [List.append_assoc, reLineComment, Regex.matchAt, Regex.run_append,
          Regex.run_literal]
        refine Regex.run_star_symbol ?_ (by simp) rfl
        intro byte member
        simpa using fun same : byte = newline => wellFormed.1 (same ▸ member)
      rw [text, Regex.replaceAll_of_matchAt (by simp [ascii_line]) matched,
        List.nil_append]
      have noSlash : 47 ∉ [newline] := by
        decide
      exact Regex.replaceAll_append (passes_code noSlash rest)

end Piece

/-- Comments are removed, and what stands around them is kept. -/
theorem stripComments_source
    {pieces : List Piece}
    (wellFormed : ∀ piece ∈ pieces, piece.WellFormed) :
    stripComments (pieces.flatMap Piece.source) = pieces.flatMap Piece.clean := by
  have blocks : reBlockComment.replaceAll [] 0 (pieces.flatMap Piece.source) =
      pieces.flatMap Piece.withoutBlocks := by
    induction pieces with
    | nil => rfl
    | cons piece pieces inductionHypothesis =>
        obtain ⟨wellFormedHead, wellFormedRest⟩ := List.forall_mem_cons.mp wellFormed
        rw [List.flatMap_cons, Piece.replaceAll_source wellFormedHead,
          inductionHypothesis wellFormedRest, List.flatMap_cons]
  rw [stripComments, blocks]
  clear blocks
  induction pieces with
  | nil => rfl
  | cons piece pieces inductionHypothesis =>
      obtain ⟨wellFormedHead, wellFormedRest⟩ := List.forall_mem_cons.mp wellFormed
      rw [List.flatMap_cons, Piece.replaceAll_withoutBlocks wellFormedHead,
        inductionHypothesis wellFormedRest, List.flatMap_cons]

/-! ## Declarations -/

theorem FieldLayout.not_mem_text
    (field : FieldLayout)
    {brace : UInt8}
    (isBrace : brace = openBrace ∨ brace = closeBrace) :
    brace ∉ field.text := by
  have isMark : brace ∈ marks := by
    rcases isBrace with rfl | rfl <;> decide
  have inTag : ∀ tag ∈ field.annotations, brace ∉ tag.text := by
    intro tag _ member
    rw [Tag.text, List.mem_cons, List.mem_append, List.mem_append] at member
    rcases member with rfl | inName | inArguments | inGap
    · revert isBrace
      decide
    · exact isWord_not_mark (tag.name_word brace inName) isMark
    · cases written : tag.arguments with
      | none => simp [Tag.argumentsText, written] at inArguments
      | some parts =>
          obtain ⟨blank, arguments⟩ := parts
          have blankSpace := tag.blank_space (blank, arguments) written
          have plain := (tag.arguments_plain (blank, arguments) written).2
          simp only [Tag.argumentsText, written, List.mem_append,
            List.mem_cons, List.not_mem_nil, or_false] at inArguments
          rcases inArguments with inBlank | rfl | inBody | rfl
          · exact isSpace_not_mark (blankSpace brace inBlank) isMark
          · revert isBrace
            decide
          · rcases isBrace with rfl | rfl
            · exact plain.1 inBody
            · exact plain.2 inBody
          · revert isBrace
            decide
    · exact isSpace_not_mark (tag.gap_space brace inGap) isMark
  intro member
  simp only [FieldLayout.text, declaration, List.mem_append, List.mem_flatMap,
    List.mem_singleton] at member
  rcases member with inLead | ⟨tag, isTag, inText⟩ | inHeading | rfl
  · exact isSpace_not_mark (field.lead_space brace inLead) isMark
  · exact inTag tag isTag inText
  · exact field.heading.not_mem_text isMark (fun inType =>
      isTypeByte_not_mark (field.type_text.typeByte brace inType) isMark) inHeading
  · revert isBrace
    decide

namespace Item

theorem body_ne_nil (item : Item) : item.declaration.body ≠ [] := by
  have wellFormed := item.wellFormed
  cases declared : item.declaration with
  | enum body =>
      rw [declared] at wellFormed
      exact wellFormed.1
  | struct fields tail =>
      rw [declared] at wellFormed
      intro empty
      obtain ⟨noFields, noTail⟩ := List.append_eq_nil_iff.mp empty
      rcases wellFormed.1 with nonempty | nonempty
      · obtain ⟨field, fields, rfl⟩ := List.exists_cons_of_ne_nil
          (List.isEmpty_eq_false_iff.mp nonempty)
        simp [FieldLayout.text, FieldLayout.declaration] at noFields
      · exact nonempty noTail

theorem not_mem_body
    (item : Item)
    {brace : UInt8}
    (isBrace : brace = openBrace ∨ brace = closeBrace) :
    brace ∉ item.declaration.body := by
  have wellFormed := item.wellFormed
  cases declared : item.declaration with
  | enum body =>
      rw [declared] at wellFormed
      rcases isBrace with rfl | rfl
      · exact wellFormed.2.1
      · exact wellFormed.2.2
  | struct fields tail =>
      rw [declared] at wellFormed
      intro member
      rcases List.mem_append.mp member with inFields | inTail
      · obtain ⟨field, _, inField⟩ := List.mem_flatMap.mp inFields
        exact field.not_mem_text isBrace inField
      · have isMark : brace ∈ marks := by
          rcases isBrace with rfl | rfl <;> decide
        exact isSpace_not_mark (wellFormed.2 brace inTail) isMark

theorem text_eq (item : Item) :
    item.text = item.lead ++
      declarationText item.declaration.keyword item.heading item.declaration.body :=
  rfl

end Item

/-- The items that a keyword introduces. -/
def itemsOf (keyword : Name) (items : List Item) : List Item :=
  items.filter fun item => item.declaration.keyword = keyword

/-- The declarations of a keyword are found in their order, with their bodies. -/
theorem Finds.findAll_items
    {keyword : Name}
    {pattern : Regex UInt8}
    {IsLead : Name → Prop}
    (finds : Finds keyword pattern IsLead)
    (items : List Item)
    (apart : ∀ item ∈ items, item.declaration.keyword = keyword ∨
      Apart item.declaration.keyword keyword ∧ IsKeyword item.declaration.keyword)
    {before tail : Name}
    (opened : openBrace ∉ before)
    (tailOpened : openBrace ∉ tail) :
    pattern.findAll 0 (before ++ (items.flatMap Item.text ++ tail)) =
      (itemsOf keyword items).map fun item =>
        captured item.heading item.declaration.body := by
  induction items generalizing before with
  | nil =>
      refine finds.findAll_eq_nil ?_
      simp [opened, tailOpened]
  | cons item items inductionHypothesis =>
      obtain ⟨apartHead, apartRest⟩ := List.forall_mem_cons.mp apart
      have leadOpened : openBrace ∉ before ++ item.lead := by
        rw [List.mem_append, not_or]
        exact ⟨opened, item.lead_open⟩
      have text : before ++ ((item :: items).flatMap Item.text ++ tail) =
          (before ++ item.lead) ++ (declarationText item.declaration.keyword item.heading
            item.declaration.body ++ (items.flatMap Item.text ++ tail)) := by
        simp [item.text_eq]
      rw [text]
      rcases apartHead with same | ⟨apartHead, isKeyword⟩
      · have later := inductionHypothesis apartRest List.not_mem_nil
        rw [List.nil_append] at later
        rw [same, finds.findAll_declaration item.heading _ leadOpened item.body_ne_nil
          (item.not_mem_body (.inr rfl)), later, itemsOf, itemsOf,
          List.filter_cons_of_pos (by simpa using same), List.map_cons]
      · have different : item.declaration.keyword ≠ keyword := by
          intro same
          exact apartHead.1 (same ▸ List.suffix_refl keyword)
        have headingOpened :
            openBrace ∉ (before ++ item.lead) ++
              item.heading.text item.declaration.keyword := by
          rw [List.mem_append, not_or]
          exact ⟨leadOpened, item.heading.not_mem_text (by decide)
            (isKeyword.not_mem (by decide))⟩
        have bodyOpened : openBrace ∉ item.declaration.body ++ [closeBrace] := by
          rw [List.mem_append, not_or]
          exact ⟨item.not_mem_body (.inl rfl), by decide⟩
        have split : (before ++ item.lead) ++ (declarationText item.declaration.keyword
            item.heading item.declaration.body ++ (items.flatMap Item.text ++ tail)) =
            ((before ++ item.lead) ++ item.heading.text item.declaration.keyword ++
              [openBrace]) ++ ((item.declaration.body ++ [closeBrace]) ++
                (items.flatMap Item.text ++ tail)) := by
          simp [declarationText]
        rw [split, Regex.findAll_append (finds.passes _ headingOpened ?_),
          inductionHypothesis apartRest bodyOpened, itemsOf, itemsOf,
          List.filter_cons_of_neg (by simpa using different)]
        intro lead heading
        exact apartHead.not_text isKeyword finds.isKeyword item.heading heading _ lead

/-! ## The module -/

theorem isKeyword_module : IsKeyword (ascii "module") := by
  decide

theorem consumes_reModule
    {consumed : Name}
    (consumes : reModule.Consumes consumed) :
    ∃ gap name, ∃ first : UInt8, isSpace first = true ∧
      consumed = ascii "module" ++ first :: (gap ++ name) := by
  simp only [reModule, Regex.concat_cons, Regex.concat_nil, Regex.consumes_append_iff,
    Regex.consumes_literal_iff, space, word, Regex.consumes_plus_symbol_iff,
    Regex.consumes_group_iff, Regex.consumes_empty_iff] at consumes
  obtain ⟨_, _, rfl, rfl, gap, _, rfl, ⟨nonempty, gapSpace⟩, name, _, rfl, -, rfl⟩ :=
    consumes
  obtain ⟨first, gap, rfl⟩ := List.exists_cons_of_ne_nil nonempty
  exact ⟨gap, name, first, gapSpace first List.mem_cons_self, by simp⟩

/-- No module is found where the word `module` is not followed by white space. -/
theorem search_reModule_eq_none
    {text : Name}
    (unmentioned : ¬MentionsModule text) :
    reModule.search text = none := by
  refine Regex.search_eq_none ?_ rfl
  intro before after split _
  refine Regex.matchAt_eq_none ?_
  intro consumed rest same consumes
  obtain ⟨gap, name, first, isSpaceFirst, rfl⟩ := consumes_reModule consumes
  refine unmentioned ⟨first, isSpaceFirst, before, gap ++ name ++ rest, ?_⟩
  rw [List.append_nil] at same
  rw [split, same]
  simp

/-- The word `module` does not begin before a text and end after it. -/
theorem passes_preamble
    {preamble : Name}
    (unmentioned : ¬MentionsModule preamble)
    (rest : Name) :
    reModule.Passes preamble (ascii "module" ++ rest) := by
  intro before after split nonempty
  refine Regex.matchAt_eq_none ?_
  intro consumed remaining same consumes
  obtain ⟨gap, name, first, isSpaceFirst, rfl⟩ := consumes_reModule consumes
  have text : after ++ (ascii "module" ++ rest) =
      (ascii "module" ++ [first]) ++ (gap ++ name ++ remaining) := by
    rw [same]
    simp
  rcases Nat.lt_or_ge after.length 7 with short | long
  · -- The white space would be a letter of the keyword.
    have positive := List.length_pos_of_ne_nil nonempty
    have letter : (after ++ (ascii "module" ++ rest))[6]? = some first := by
      rw [text]
      rfl
    rw [List.getElem?_append_right (by omega), List.getElem?_append_left
      (by simp [ascii]; omega)] at letter
    have isLetter := isKeyword_module.word first (List.mem_of_getElem? letter)
    rw [isWord_eq_false isSpaceFirst] at isLetter
    cases isLetter
  · have begins : ascii "module" ++ [first] <+: after :=
      List.prefix_of_prefix_length_le ⟨_, text.symm⟩ (List.prefix_append _ _)
        (by simpa [ascii] using long)
    obtain ⟨others, rfl⟩ := begins
    exact unmentioned ⟨first, isSpaceFirst, before, others, by simp [split]⟩

/-- The module is found with its name. -/
theorem matchAt_reModule (heading : Heading) (rest : Name) :
    ∃ after, reModule.matchAt (heading.text (ascii "module") ++ openBrace :: rest) =
      some (Function.update (fun _ => []) 1 heading.name, after) := by
  have text : heading.text (ascii "module") ++ openBrace :: rest =
      ascii "module" ++ (heading.gap ++ (heading.name ++
        (heading.blank ++ openBrace :: rest))) := by
    simp [Heading.text]
  refine ⟨heading.blank ++ openBrace :: rest, ?_⟩
  simp only [text, reModule, Regex.matchAt, Regex.concat_cons, Regex.concat_nil,
    Regex.run_append, Regex.run_literal]
  refine Regex.run_plus_symbol heading.gap_ne_nil heading.gap_space ?_ ?_
  · intro first isHead
    rw [List.head?_append_of_ne_nil _ heading.name_ne_nil] at isHead
    exact (isWord_apart (heading.name_word first (List.mem_of_mem_head? isHead))).1
  refine Regex.run_group (Regex.run_plus_symbol heading.name_ne_nil heading.name_word
    (heading.after_name (by decide) rest) ?_)
  rw [Regex.take_consumed]
  rfl

/-! ## Files -/

namespace Layout

variable {layout : Layout}

theorem search_reModule (wellFormed : layout.WellFormed) :
    (match reModule.search layout.text with
      | some (groups, _) => groups 1
      | none => []) = (layout.module.map Heading.name).getD [] := by
  cases declared : layout.module with
  | none =>
      rw [search_reModule_eq_none (wellFormed.content_module declared)]
      rfl
  | some heading =>
      obtain ⟨after, matched⟩ := matchAt_reModule heading layout.content
      have text : layout.text = layout.preamble ++
          (ascii "module" ++ (heading.text [] ++ openBrace :: layout.content)) := by
        simp [Layout.text, moduleText, declared, Heading.text]
      have sameText : ascii "module" ++ (heading.text [] ++ openBrace :: layout.content) =
          heading.text (ascii "module") ++ openBrace :: layout.content := by
        simp [Heading.text]
      rw [text, Regex.search_append (passes_preamble wellFormed.preamble_module _),
        sameText, Regex.search_of_matchAt matched]
      simp

/-- The declarations of a keyword are found in a file. -/
theorem findAll_text
    (wellFormed : layout.WellFormed)
    {keyword : Name}
    {pattern : Regex UInt8}
    {IsLead : Name → Prop}
    (finds : Finds keyword pattern IsLead)
    (notModule : Apart (ascii "module") keyword)
    (apart : ∀ declaration : Declaration, declaration.keyword = keyword ∨
      Apart declaration.keyword keyword ∧ IsKeyword declaration.keyword) :
    pattern.findAll 0 layout.text = (itemsOf keyword layout.items).map fun item =>
      captured item.heading item.declaration.body := by
  have apartItems : ∀ item ∈ layout.items, item.declaration.keyword = keyword ∨
      Apart item.declaration.keyword keyword ∧ IsKeyword item.declaration.keyword :=
    fun item _ => apart item.declaration
  cases declared : layout.module with
  | none =>
      have text : layout.text =
          layout.preamble ++ (layout.items.flatMap Item.text ++ layout.tail) := by
        simp [Layout.text, moduleText, declared, content]
      rw [text]
      exact finds.findAll_items layout.items apartItems wellFormed.preamble_open
        wellFormed.tail_open
  | some heading =>
      have text : layout.text =
          (layout.preamble ++ heading.text (ascii "module") ++ [openBrace]) ++
            ([] ++ (layout.items.flatMap Item.text ++ layout.tail)) := by
        simp [Layout.text, moduleText, declared, content]
      have opened : openBrace ∉ layout.preamble ++ heading.text (ascii "module") := by
        rw [List.mem_append, not_or]
        exact ⟨wellFormed.preamble_open, heading.not_mem_text (by decide) (by decide)⟩
      rw [text, Regex.findAll_append (finds.passes _ opened ?_)]
      · exact finds.findAll_items layout.items apartItems List.not_mem_nil
          wellFormed.tail_open
      · intro lead other
        exact notModule.not_text isKeyword_module finds.isKeyword heading other _ lead

end Layout

@[simp] theorem Declaration.keyword_enum (body : Name) :
    (Declaration.enum body).keyword = ascii "enum" :=
  rfl

@[simp] theorem Declaration.keyword_struct (fields : List FieldLayout) (tail : Name) :
    (Declaration.struct fields tail).keyword = ascii "struct" :=
  rfl

/-- The items of a keyword are those from which something is read. -/
theorem map_itemsOf
    {Parsed : Type*}
    {keyword : Name}
    {parse : Item → Parsed}
    {parse? : Item → Option Parsed}
    (same : ∀ item : Item, item.declaration.keyword = keyword →
      parse? item = some (parse item))
    (other : ∀ item : Item, item.declaration.keyword ≠ keyword → parse? item = none)
    (items : List Item) :
    (itemsOf keyword items).map parse = items.filterMap parse? := by
  induction items with
  | nil => rfl
  | cons item items inductionHypothesis =>
      rw [itemsOf] at inductionHypothesis ⊢
      by_cases isKeyword : item.declaration.keyword = keyword
      · rw [List.filter_cons_of_pos (by simpa using isKeyword), List.map_cons,
          List.filterMap_cons_some (same item isKeyword), inductionHypothesis]
      · rw [List.filter_cons_of_neg (by simpa using isKeyword),
          List.filterMap_cons_none (other item isKeyword), inductionHypothesis]

namespace Item

variable {item : Item}

theorem enum?_of_keyword (isEnum : item.declaration.keyword = ascii "enum") :
    item.enum? = some item.heading.name := by
  cases declared : item.declaration with
  | enum body => simp [enum?, declared]
  | struct fields tail =>
      rw [declared, Declaration.keyword_struct] at isEnum
      exact absurd isEnum (by decide)

theorem enum?_of_other (other : item.declaration.keyword ≠ ascii "enum") :
    item.enum? = none := by
  cases declared : item.declaration with
  | enum body => exact absurd (by rw [declared, Declaration.keyword_enum]) other
  | struct fields tail => simp [enum?, declared]

theorem struct?_of_keyword (isStruct : item.declaration.keyword = ascii "struct") :
    item.struct? = some (parseStruct (captured item.heading item.declaration.body)) := by
  have wellFormed := item.wellFormed
  cases declared : item.declaration with
  | enum body =>
      rw [declared, Declaration.keyword_enum] at isStruct
      exact absurd isStruct (by decide)
  | struct fields tail =>
      rw [declared] at wellFormed
      have found := findAll_fields fields wellFormed.2
      simp [struct?, declared, parseStruct, Declaration.body, found]

theorem struct?_of_other (other : item.declaration.keyword ≠ ascii "struct") :
    item.struct? = none := by
  cases declared : item.declaration with
  | enum body => simp [struct?, declared]
  | struct fields tail =>
      exact absurd (by rw [declared, Declaration.keyword_struct]) other

end Item

/-- A file with comments is parsed as it is laid out without them. -/
theorem Layout.parseIdl_source
    {layout : Layout}
    (wellFormed : layout.WellFormed)
    {pieces : List Piece}
    (pieces_wellFormed : ∀ piece ∈ pieces, piece.WellFormed)
    (clean : pieces.flatMap Piece.clean = layout.text) :
    parseIdl (pieces.flatMap Piece.source) = layout.parsed := by
  have enums := Layout.findAll_text wellFormed finds_reEnum (by decide)
    (by rintro (_ | _) <;> simp only [Declaration.keyword_enum,
      Declaration.keyword_struct] <;> decide)
  have structs := Layout.findAll_text wellFormed finds_reStruct (by decide)
    (by rintro (_ | _) <;> simp only [Declaration.keyword_enum,
      Declaration.keyword_struct] <;> decide)
  have stripped := stripComments_source pieces_wellFormed
  rw [clean] at stripped
  rw [parseIdl, stripped, enums, structs, List.map_map, List.map_map]
  simp only [Layout.parsed, ParsedFile.mk.injEq]
  refine ⟨Layout.search_reModule wellFormed, ?_, ?_⟩
  · refine map_itemsOf (fun item isEnum => ?_) (fun _ => Item.enum?_of_other) _
    rw [Item.enum?_of_keyword isEnum]
    exact congrArg some (captured_one item.heading _).symm
  · exact map_itemsOf (fun _ => Item.struct?_of_keyword)
      (fun _ => Item.struct?_of_other) _

/-- A text that is laid out as an IDL file, with comments in it. -/
structure IdlSource where
  layout : Layout
  pieces : List Piece
  layout_wellFormed : layout.WellFormed
  pieces_wellFormed : ∀ piece ∈ pieces, piece.WellFormed
  clean_eq : pieces.flatMap Piece.clean = layout.text

namespace IdlSource

def text (source : IdlSource) : Name :=
  source.pieces.flatMap Piece.source

/-- Parsing a file returns the module, the enumerations and the structs that are
written in it. -/
theorem parseIdl_text (source : IdlSource) :
    parseIdl source.text = source.layout.parsed :=
  Layout.parseIdl_source source.layout_wellFormed source.pieces_wellFormed
    source.clean_eq

end IdlSource

end CycloneDDS
end StarterCpp
