import StarterCpp.CycloneDDS.IdlLayout
import StarterCpp.CycloneDDS.TypeText
import StarterCpp.Library.RegexSearch

/-!
# Finding the declarations

The patterns of the declarations differ in the keyword before the name.  A match ends
the first text without braces that it meets, so no pattern matches across a
declaration, and each finds the declarations of its keyword with their bodies.
-/

namespace StarterCpp
namespace CycloneDDS

open Text

/-! ## Characters -/

/-- The marks that structure a file. -/
def marks : List UInt8 :=
  [openBrace, closeBrace, 40, 59, 64]

theorem isWord_not_mark
    {byte : UInt8}
    (word : isWord byte = true) :
    byte ∉ marks := by
  have reads : ∀ number < 256, isWord (UInt8.ofNat number) = true →
      UInt8.ofNat number ∉ marks := by
    decide +kernel
  have read := reads byte.toNat byte.toNat_lt
  rw [UInt8.ofNat_toNat] at read
  exact read word

theorem isSpace_not_mark
    {byte : UInt8}
    (space : isSpace byte = true) :
    byte ∉ marks := by
  have reads : ∀ number < 256, isSpace (UInt8.ofNat number) = true →
      UInt8.ofNat number ∉ marks := by
    decide +kernel
  have read := reads byte.toNat byte.toNat_lt
  rw [UInt8.ofNat_toNat] at read
  exact read space

theorem isWord_eq_false
    {byte : UInt8}
    (space : isSpace byte = true) :
    isWord byte = false := by
  by_contra word
  have apart := (isWord_apart (Bool.eq_true_of_not_eq_false word)).1
  rw [space] at apart
  cases apart

/-! ## Headings -/

/-- A keyword: a word. -/
structure IsKeyword (keyword : Name) : Prop where
  nonempty : keyword ≠ []
  word : ∀ byte ∈ keyword, isWord byte = true

instance (keyword : Name) : Decidable (IsKeyword keyword) :=
  decidable_of_iff (keyword ≠ [] ∧ keyword.all isWord = true)
    ⟨fun ⟨nonempty, word⟩ => ⟨nonempty, List.all_eq_true.mp word⟩,
      fun ⟨nonempty, word⟩ => ⟨nonempty, List.all_eq_true.mpr word⟩⟩

namespace Heading

@[ext] theorem ext
    {heading otherHeading : Heading}
    (gap : heading.gap = otherHeading.gap)
    (name : heading.name = otherHeading.name)
    (blank : heading.blank = otherHeading.blank) :
    heading = otherHeading := by
  cases heading
  cases otherHeading
  cases gap
  cases name
  cases blank
  rfl

theorem getLast?_word
    (heading : Heading)
    (lead : Name) :
    ∀ byte ∈ (lead ++ (heading.gap ++ heading.name)).getLast?,
      isSpace byte = false := by
  intro byte last
  have nonempty := heading.name_ne_nil
  have member : byte ∈ heading.name := by
    rw [← List.append_assoc, List.getLast?_append_of_ne_nil _ nonempty] at last
    exact List.mem_of_getLast? last
  exact (isWord_apart (heading.name_word byte member)).1

theorem getLast?_gap
    (heading : Heading)
    (lead : Name) :
    ∀ byte ∈ (lead ++ heading.gap).getLast?, isWord byte = false := by
  intro byte last
  rw [List.getLast?_append_of_ne_nil _ heading.gap_ne_nil] at last
  exact isWord_eq_false (heading.gap_space byte (List.mem_of_getLast? last))

/-- A text ends with a heading in one way, whatever comes before it. -/
theorem eq_of_append_eq
    {heading otherHeading : Heading}
    {lead otherLead : Name}
    (last : ∀ byte ∈ lead.getLast?, isSpace byte = false)
    (otherLast : ∀ byte ∈ otherLead.getLast?, isSpace byte = false)
    (same : heading.text lead = otherHeading.text otherLead) :
    lead = otherLead ∧ heading = otherHeading := by
  have blanks := split_of_last heading.blank_space otherHeading.blank_space
    (heading.getLast?_word lead) (otherHeading.getLast?_word otherLead)
    (by simpa only [Heading.text, List.append_assoc] using same)
  have names := split_of_last heading.name_word otherHeading.name_word
    (heading.getLast?_gap lead) (otherHeading.getLast?_gap otherLead)
    (by simpa only [List.append_assoc] using blanks.1)
  have gaps := split_of_last heading.gap_space otherHeading.gap_space
    last otherLast names.1
  exact ⟨gaps.1, Heading.ext gaps.2 names.2 blanks.2⟩

theorem append_text
    (heading : Heading)
    (lead keyword : Name) :
    lead ++ heading.text keyword = heading.text (lead ++ keyword) := by
  simp [text]

/-- A mark is not in a heading. -/
theorem not_mem_text
    (heading : Heading)
    {keyword : Name}
    {mark : UInt8}
    (isMark : mark ∈ marks)
    (absent : mark ∉ keyword) :
    mark ∉ heading.text keyword := by
  intro member
  simp only [text, List.mem_append] at member
  rcases member with inKeyword | inGap | inName | inBlank
  · exact absent inKeyword
  · exact isSpace_not_mark (heading.gap_space mark inGap) isMark
  · exact isWord_not_mark (heading.name_word mark inName) isMark
  · exact isSpace_not_mark (heading.blank_space mark inBlank) isMark

end Heading

namespace IsKeyword

theorem getLast?_append
    {keyword : Name}
    (isKeyword : IsKeyword keyword)
    (lead : Name) :
    ∀ byte ∈ (lead ++ keyword).getLast?, isSpace byte = false := by
  intro byte last
  rw [List.getLast?_append_of_ne_nil _ isKeyword.nonempty] at last
  exact (isWord_apart (isKeyword.word byte (List.mem_of_getLast? last))).1

theorem not_mem
    {keyword : Name}
    (isKeyword : IsKeyword keyword)
    {mark : UInt8}
    (isMark : mark ∈ marks) :
    mark ∉ keyword :=
  fun member => isWord_not_mark (isKeyword.word mark member) isMark

/-- Texts that end with headings of keywords are the same up to the keywords. -/
theorem split
    {keyword otherKeyword : Name}
    (isKeyword : IsKeyword keyword)
    (otherIsKeyword : IsKeyword otherKeyword)
    {heading otherHeading : Heading}
    {lead otherLead : Name}
    (same : lead ++ heading.text keyword = otherLead ++ otherHeading.text otherKeyword) :
    lead ++ keyword = otherLead ++ otherKeyword ∧ heading = otherHeading := by
  rw [heading.append_text, otherHeading.append_text] at same
  exact Heading.eq_of_append_eq (isKeyword.getLast?_append lead)
    (otherIsKeyword.getLast?_append otherLead) same

end IsKeyword

/-- No keyword ends with another one. -/
def Apart (keyword otherKeyword : Name) : Prop :=
  ¬keyword <:+ otherKeyword ∧ ¬otherKeyword <:+ keyword

instance (keyword otherKeyword : Name) : Decidable (Apart keyword otherKeyword) :=
  inferInstanceAs (Decidable (_ ∧ _))

/-- A heading of one keyword is no heading of another one. -/
theorem Apart.not_text
    {keyword otherKeyword : Name}
    (apart : Apart keyword otherKeyword)
    (isKeyword : IsKeyword keyword)
    (otherIsKeyword : IsKeyword otherKeyword)
    (heading otherHeading : Heading)
    (lead otherLead : Name) :
    lead ++ heading.text keyword ≠ otherLead ++ otherHeading.text otherKeyword := by
  intro same
  have keywords := (isKeyword.split otherIsKeyword same).1
  have suffix : keyword <:+ otherLead ++ otherKeyword := ⟨lead, keywords⟩
  rcases List.suffix_or_suffix_of_suffix suffix (List.suffix_append otherLead otherKeyword)
    with first | second
  · exact apart.1 first
  · exact apart.2 second

/-! ## Patterns -/

@[simp] theorem consumes_byte_iff
    {value : UInt8}
    {consumed : Name} :
    (byte value).Consumes consumed ↔ consumed = [value] := by
  simp [byte]

@[simp] theorem run_byte
    {Result : Type*}
    (value : UInt8)
    (rest : Name)
    (captures : Regex.Captures UInt8)
    (next : Regex.Continuation UInt8 Result) :
    (byte value).run (value :: rest) captures next = next rest captures := by
  simp [byte]

/-- What a heading and a body in braces capture. -/
def captured (heading : Heading) (body : Name) : Regex.Captures UInt8 :=
  Function.update (Function.update (fun _ => []) 1 heading.name) 2 body

@[simp] theorem captured_one (heading : Heading) (body : Name) :
    captured heading body 1 = heading.name := by
  simp [captured, Function.update]

@[simp] theorem captured_two (heading : Heading) (body : Name) :
    captured heading body 2 = body := by
  simp [captured]

/-- A keyword, a name and a body in braces. -/
def declarationText (keyword : Name) (heading : Heading) (body : Name) : Name :=
  heading.text keyword ++ (openBrace :: (body ++ [closeBrace]))

section NamePattern

variable {patterns : List (Regex UInt8)}
variable {index : ℕ}

theorem isSpace_mark
    {mark : UInt8}
    (isMark : mark ∈ marks) :
    isSpace mark = false := by
  by_contra space
  exact isSpace_not_mark (Bool.eq_true_of_not_eq_false space) isMark

/-- A name ends before white space or a mark. -/
theorem Heading.after_name
    (heading : Heading)
    {mark : UInt8}
    (isMark : mark ∈ marks)
    (rest : Name) :
    ∀ first ∈ (heading.blank ++ mark :: rest).head?, isWord first = false := by
  intro first isHead
  cases blank : heading.blank with
  | nil =>
      obtain rfl : mark = first := by simpa [blank] using isHead
      by_contra word
      exact isWord_not_mark (Bool.eq_true_of_not_eq_false word) isMark
  | cons space others =>
      obtain rfl : space = first := by simpa [blank] using isHead
      exact isWord_eq_false (heading.blank_space space (by simp [blank]))

/-- White space, a name that is captured, and white space before other patterns. -/
def reName (index : ℕ) (patterns : List (Regex UInt8)) : Regex UInt8 :=
  .concat (.plus space :: .group index (.plus word) :: .star space :: patterns)

theorem consumes_reName
    {consumed : Name}
    (consumes : (reName index patterns).Consumes consumed) :
    ∃ heading : Heading, ∃ rest,
      consumed = heading.text [] ++ rest ∧ (Regex.concat patterns).Consumes rest := by
  simp only [reName, Regex.concat_cons, Regex.consumes_append_iff,
    Regex.consumes_group_iff, space, word, Regex.consumes_plus_symbol_iff,
    Regex.consumes_star_symbol_iff] at consumes
  obtain ⟨gap, _, rfl, gapSpace, name, _, rfl, nameWord, blank, rest, rfl, blankSpace,
    consumesRest⟩ := consumes
  exact ⟨⟨gap, name, blank, gapSpace.1, gapSpace.2, nameWord.1, nameWord.2, blankSpace⟩,
    rest, by simp [Heading.text], consumesRest⟩

/-- A name is matched up to the mark that follows it. -/
theorem run_reName
    {Result : Type*}
    (heading : Heading)
    {mark : UInt8}
    (isMark : mark ∈ marks)
    (rest : Name)
    {captures : Regex.Captures UInt8}
    {next : Regex.Continuation UInt8 Result}
    {result : Result}
    (matched : (Regex.concat patterns).run (mark :: rest)
      (Function.update captures index heading.name) next = some result) :
    (reName index patterns).run (heading.text [] ++ mark :: rest) captures next =
      some result := by
  simp only [Heading.text, reName, Regex.concat_cons, Regex.run_append,
    List.append_assoc, List.nil_append]
  refine Regex.run_plus_symbol heading.gap_ne_nil heading.gap_space ?_ ?_
  · intro first isHead
    rw [List.head?_append_of_ne_nil _ heading.name_ne_nil] at isHead
    exact (isWord_apart (heading.name_word first (List.mem_of_mem_head? isHead))).1
  refine Regex.run_group (Regex.run_plus_symbol heading.name_ne_nil heading.name_word
    (heading.after_name isMark rest) ?_)
  rw [Regex.take_consumed]
  refine Regex.run_star_symbol heading.blank_space ?_ matched
  intro first isHead
  obtain rfl : mark = first := by simpa using isHead
  exact isSpace_mark isMark

end NamePattern

theorem reDeclaration_eq (keyword : Name) :
    reDeclaration keyword = .append (.literal keyword) (reName 1
      [byte openBrace, .group 2 (.plus (otherThan closeBrace)), byte closeBrace]) :=
  rfl

theorem consumes_reDeclaration
    {keyword consumed : Name}
    (consumes : (reDeclaration keyword).Consumes consumed) :
    ∃ heading body, closeBrace ∉ body ∧
      consumed = declarationText keyword heading body := by
  rw [reDeclaration_eq, Regex.consumes_append_iff] at consumes
  obtain ⟨_, _, rfl, consumesKeyword, consumesName⟩ := consumes
  obtain rfl := Regex.consumes_literal_iff.mp consumesKeyword
  obtain ⟨heading, rest, rfl, consumesBody⟩ := consumes_reName consumesName
  simp only [Regex.concat_cons, Regex.concat_nil, Regex.consumes_append_iff,
    Regex.consumes_group_iff, otherThan, Regex.consumes_plus_symbol_iff,
    consumes_byte_iff, Regex.consumes_empty_iff] at consumesBody
  obtain ⟨_, _, rfl, rfl, body, _, rfl, bodyPlain, _, _, rfl, rfl, rfl⟩ := consumesBody
  refine ⟨heading, body, ?_, ?_⟩
  · intro member
    simpa using bodyPlain.2 closeBrace member
  · simp [declarationText, Heading.text]

/-- A declaration is matched from its keyword on. -/
theorem run_reDeclaration
    {Result : Type*}
    (keyword : Name)
    (heading : Heading)
    {body : Name}
    (nonempty : body ≠ [])
    (plain : closeBrace ∉ body)
    (rest : Name)
    (next : Regex.Continuation UInt8 Result)
    {result : Result}
    (matched : next rest (captured heading body) = some result) :
    (reDeclaration keyword).run (declarationText keyword heading body ++ rest)
      (fun _ => []) next = some result := by
  have text : declarationText keyword heading body ++ rest =
      keyword ++ (heading.text [] ++ openBrace :: (body ++ closeBrace :: rest)) := by
    simp [declarationText, Heading.text]
  rw [text, reDeclaration_eq, Regex.run_append, Regex.run_literal]
  refine run_reName heading (by decide) _ ?_
  simp only [Regex.concat_cons, Regex.concat_nil, Regex.run_append, run_byte]
  refine Regex.run_group (Regex.run_plus_symbol nonempty ?_ ?_ ?_)
  · intro first member
    simpa using fun same : first = closeBrace => plain (same ▸ member)
  · intro first isHead
    obtain rfl : closeBrace = first := by simpa using isHead
    rfl
  rw [Regex.take_consumed]
  simpa [captured] using matched

/-- A pattern that finds the declarations of a keyword: after a lead that it may
take, it matches a declaration up to its closing brace. -/
structure Finds (keyword : Name) (pattern : Regex UInt8) (IsLead : Name → Prop) :
    Prop where
  isKeyword : IsKeyword keyword
  lead_open : ∀ {lead}, IsLead lead → openBrace ∉ lead
  consumes : ∀ {consumed}, pattern.Consumes consumed →
    ∃ lead heading body, IsLead lead ∧ closeBrace ∉ body ∧
      consumed = lead ++ declarationText keyword heading body
  nil : IsLead []
  matchAt : ∀ {lead} (heading : Heading) {body : Name} (rest : Name), IsLead lead →
    body ≠ [] → closeBrace ∉ body →
      pattern.matchAt (lead ++ (declarationText keyword heading body ++ rest)) =
        some (captured heading body, rest)

theorem finds_reDeclaration
    {keyword : Name}
    (isKeyword : IsKeyword keyword) :
    Finds keyword (reDeclaration keyword) fun lead => lead = [] where
  isKeyword := isKeyword
  lead_open := by
    rintro lead rfl
    exact List.not_mem_nil
  consumes := by
    intro consumed consumes
    obtain ⟨heading, body, plain, rfl⟩ := consumes_reDeclaration consumes
    exact ⟨[], heading, body, rfl, plain, rfl⟩
  nil := rfl
  matchAt := by
    rintro lead heading body rest rfl nonempty plain
    exact run_reDeclaration keyword heading nonempty plain rest _ rfl

theorem finds_reEnum : Finds (ascii "enum") reEnum fun lead => lead = [] :=
  finds_reDeclaration (by decide)

/-- A struct may be preceded by the annotation of a topic. -/
def IsTopicLead (lead : Name) : Prop :=
  lead = [] ∨ ∃ gap, lead = ascii "@topic" ++ gap ∧ gap ≠ [] ∧
    ∀ byte ∈ gap, isSpace byte = true

theorem consumes_reTopic_iff {consumed : Name} :
    reTopic.Consumes consumed ↔ ∃ gap, consumed = ascii "@topic" ++ gap ∧ gap ≠ [] ∧
      ∀ byte ∈ gap, isSpace byte = true := by
  simp only [reTopic, Regex.concat_cons, Regex.concat_nil, Regex.consumes_append_iff,
    Regex.consumes_literal_iff, space, Regex.consumes_plus_symbol_iff,
    Regex.consumes_empty_iff]
  constructor
  · rintro ⟨_, _, rfl, rfl, gap, _, rfl, gapSpace, rfl⟩
    exact ⟨gap, by rw [List.append_nil], gapSpace⟩
  · rintro ⟨gap, rfl, gapSpace⟩
    exact ⟨_, gap, rfl, rfl, gap, [], (List.append_nil gap).symm, gapSpace, rfl⟩

theorem finds_reStruct : Finds (ascii "struct") reStruct IsTopicLead where
  isKeyword := by decide
  lead_open := by
    rintro lead (rfl | ⟨gap, rfl, -, gapSpace⟩) member
    · cases member
    · rcases List.mem_append.mp member with inTopic | inGap
      · revert inTopic
        decide
      · exact isSpace_not_mark (gapSpace _ inGap) (by decide)
  consumes := by
    intro consumed consumes
    rw [reStruct, Regex.consumes_append_iff] at consumes
    obtain ⟨lead, _, rfl, consumesLead, consumes⟩ := consumes
    obtain ⟨heading, body, plain, rfl⟩ := consumes_reDeclaration consumes
    rw [Regex.consumes_optional_iff, consumes_reTopic_iff] at consumesLead
    exact ⟨lead, heading, body, consumesLead, plain, rfl⟩
  nil := .inl rfl
  matchAt := by
    intro lead heading body rest isLead nonempty plain
    have declared := run_reDeclaration (ascii "struct") heading nonempty plain rest
      (fun rest captures => some (captures, rest)) rfl
    rcases isLead with rfl | ⟨gap, rfl, gapNonempty, gapSpace⟩
    · refine Regex.run_optional_absent ?_ declared
      intro consumed after same consumes
      obtain ⟨gap, rfl, -⟩ := consumes_reTopic_iff.mp consumes
      simp [declarationText, Heading.text, ascii] at same
    · refine Regex.run_optional_present ?_
      simp only [reTopic, Regex.concat_cons, Regex.concat_nil, Regex.run_append,
        List.append_assoc, Regex.run_literal]
      refine Regex.run_plus_symbol gapNonempty gapSpace ?_ declared
      intro first isHead
      obtain rfl : 115 = first := by
        simpa [declarationText, Heading.text, ascii] using isHead
      rfl

/-! ## Searching -/

namespace Finds

variable {keyword : Name}
variable {pattern : Regex UInt8}
variable {IsLead : Name → Prop}

theorem openBrace_not_mem
    (finds : Finds keyword pattern IsLead)
    {lead : Name}
    (isLead : IsLead lead)
    (heading : Heading) :
    openBrace ∉ lead ++ heading.text keyword := by
  rw [List.mem_append, not_or]
  exact ⟨finds.lead_open isLead, heading.not_mem_text (by decide)
    (finds.isKeyword.not_mem (by decide))⟩

/-- A match from a text without braces on takes it for a heading. -/
theorem matched_heading
    (finds : Finds keyword pattern IsLead)
    {before rest after consumed : Name}
    (opened : openBrace ∉ before)
    (same : before ++ openBrace :: rest = consumed ++ after)
    (consumes : pattern.Consumes consumed) :
    ∃ lead, ∃ heading : Heading, ∃ body, IsLead lead ∧ closeBrace ∉ body ∧
      before = lead ++ heading.text keyword ∧
        rest = body ++ closeBrace :: after := by
  obtain ⟨lead, heading, body, isLead, plain, rfl⟩ := finds.consumes consumes
  have text : before ++ openBrace :: rest =
      (lead ++ heading.text keyword) ++ openBrace :: (body ++ closeBrace :: after) := by
    rw [same]
    simp [declarationText]
  have split := split_of_notMem opened (finds.openBrace_not_mem isLead heading) text
  exact ⟨lead, heading, body, isLead, plain, split.1, split.2⟩

/-- A text that does not end with a heading of the keyword is passed over, with the
brace after it. -/
theorem passes
    (finds : Finds keyword pattern IsLead)
    {before : Name}
    (rest : Name)
    (opened : openBrace ∉ before)
    (other : ∀ lead (heading : Heading), before ≠ lead ++ heading.text keyword) :
    pattern.Passes (before ++ [openBrace]) rest := by
  intro earlier later split nonempty
  refine Regex.matchAt_eq_none ?_
  intro consumed after same consumes
  obtain ⟨later, last, rfl⟩ := (List.eq_nil_or_concat' later).resolve_left nonempty
  rw [← List.append_assoc] at split
  obtain ⟨rfl, lastBrace⟩ := List.append_inj' split rfl
  obtain rfl : openBrace = last := by simpa using lastBrace
  have laterOpen : openBrace ∉ later :=
    fun member => opened (List.mem_append_right earlier member)
  obtain ⟨lead, heading, body, -, -, rfl, -⟩ :=
    finds.matched_heading laterOpen (by simpa using same) consumes
  exact other (earlier ++ lead) heading (List.append_assoc _ _ _).symm

/-- Nothing is found in a text without braces. -/
theorem findAll_eq_nil
    (finds : Finds keyword pattern IsLead)
    {text : Name}
    (opened : openBrace ∉ text) :
    pattern.findAll 0 text = [] := by
  refine Regex.findAll_eq_nil ?_
  intro earlier later split _
  refine Regex.matchAt_eq_none ?_
  intro consumed after same consumes
  obtain ⟨lead, heading, body, -, -, rfl⟩ := finds.consumes consumes
  rw [List.append_nil] at same
  refine opened ?_
  rw [split, same]
  simp [declarationText]

/-- A declaration of the keyword is found after a text without braces. -/
theorem findAll_declaration
    (finds : Finds keyword pattern IsLead)
    {before : Name}
    (heading : Heading)
    {body : Name}
    (rest : Name)
    (opened : openBrace ∉ before)
    (nonempty : body ≠ [])
    (plain : closeBrace ∉ body) :
    pattern.findAll 0 (before ++ (declarationText keyword heading body ++ rest)) =
      captured heading body :: pattern.findAll 0 rest := by
  have written : ∀ lead, IsLead lead →
      pattern.findAll 0 (lead ++ (declarationText keyword heading body ++ rest)) =
        captured heading body :: pattern.findAll 0 rest := by
    intro lead isLead
    have matched := finds.matchAt heading rest isLead nonempty plain
    rw [← List.append_assoc] at matched ⊢
    refine Regex.findAll_of_matchAt ?_ matched
    simp [declarationText]
  induction before with
  | nil => exact written [] finds.nil
  | cons first before inductionHypothesis =>
      have later := inductionHypothesis (List.not_mem_of_not_mem_cons opened)
      cases matched : pattern.matchAt
          (first :: (before ++ (declarationText keyword heading body ++ rest))) with
      | none =>
          rw [List.cons_append, Regex.findAll, matched]
          exact later
      | some found =>
          -- An earlier match takes what comes before the keyword as its lead.
          obtain ⟨consumed, same, consumes⟩ := Regex.consumes_of_matchAt matched
          have text : (first :: before) ++ heading.text keyword ++
              openBrace :: (body ++ closeBrace :: rest) = consumed ++ found.2 := by
            rw [← same]
            simp [declarationText]
          have headingOpen : openBrace ∉ (first :: before) ++ heading.text keyword := by
            rw [List.mem_append, not_or]
            exact ⟨opened, heading.not_mem_text (by decide)
              (finds.isKeyword.not_mem (by decide))⟩
          obtain ⟨lead, _, _, isLead, -, split, -⟩ :=
            finds.matched_heading headingOpen text consumes
          have keywords := (finds.isKeyword.split finds.isKeyword split).1
          obtain rfl : first :: before = lead := List.append_cancel_right keywords
          exact written _ isLead

end Finds

end CycloneDDS
end StarterCpp
