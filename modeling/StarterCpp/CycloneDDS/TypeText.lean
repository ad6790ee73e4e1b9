import Mathlib.Data.Bool.AllAny
import Mathlib.Data.List.TakeWhile
import StarterCpp.CycloneDDS.JsonHelperGenerator

/-!
# The text of the types

The generator reads every type off its text.  A built-in type or a declared name
is found as itself, as a field and as the element of a sequence.  A sequence of
sequences is taken apart at the wrong end, and what is left is no type.
-/

namespace StarterCpp
namespace CycloneDDS

open Text

/-! ## Characters -/

theorem isDigit_of_mem_decimalNat
    {number : ℕ}
    {byte : UInt8}
    (member : byte ∈ decimalNat number) :
    isDigit byte = true := by
  obtain ⟨digit, isDigit, rfl⟩ :=
    List.mem_map.mp (List.mem_reverse.mp member)
  have small := lt_of_mem_digits isDigit
  simp only [CycloneDDS.isDigit, digitByte, Bool.and_eq_true, decide_eq_true_eq,
    UInt8.le_iff_toNat_le, UInt8.toNat_ofNat']
  constructor
  · change 48 ≤ _
    omega
  · change _ ≤ 57
    omega

theorem decimalNat_ne_nil (number : ℕ) : decimalNat number ≠ [] := by
  unfold decimalNat digits
  split_ifs with zero
  · simp
  · simpa [Nat.digits_eq_nil_iff_eq_zero] using zero

/-- A bound in decimal is read up to the bracket that closes it. -/
theorem afterBound_decimalNat
    (number : ℕ)
    (rest : Name) :
    afterBound (decimalNat number ++ 62 :: rest) = some rest := by
  have digit : ∀ byte ∈ decimalNat number, isDigit byte = true :=
    fun byte member => isDigit_of_mem_decimalNat member
  rw [afterBound, List.takeWhile_append_of_pos digit,
    List.dropWhile_append_of_pos digit]
  obtain ⟨first, others, text⟩ := List.exists_cons_of_ne_nil (decimalNat_ne_nil number)
  simp [text, isDigit]

/-- Characters of a word are neither spaces nor marks. -/
theorem isWord_apart
    {byte : UInt8}
    (word : isWord byte = true) :
    isSpace byte = false ∧ byte ∉ [newline, 44, 58, 60, 62] := by
  have reads : ∀ number < 256, isWord (UInt8.ofNat number) = true →
      isSpace (UInt8.ofNat number) = false ∧
        UInt8.ofNat number ∉ [newline, 44, 58, 60, 62] := by
    decide +kernel
  have read := reads byte.toNat byte.toNat_lt
  rw [UInt8.ofNat_toNat] at read
  exact read word

/-- Digits are characters of words. -/
theorem isWord_of_isDigit
    {byte : UInt8}
    (digit : isDigit byte = true) :
    isWord byte = true := by
  have range : (48 ≤ byte && byte ≤ 57) = true := digit
  simp [isWord, range]

/-! ## Simple texts -/

/-- A text that names a type by itself. -/
structure IsSimple (text : Name) : Prop where
  nonempty : text ≠ []
  unmarked : ∀ byte ∈ text, byte ∉ [newline, 44, 58, 60, 62]
  stripped : strip text = text

/-- Nothing is stripped from a text without spaces. -/
theorem strip_eq_self
    {text : Name}
    (solid : ∀ byte ∈ text, isSpace byte = false) :
    strip text = text := by
  have keeps : ∀ text : Name, (∀ byte ∈ text, isSpace byte = false) →
      text.dropWhile isSpace = text := by
    intro text solid
    cases text with
    | nil => rfl
    | cons first rest =>
        rw [List.dropWhile_cons_of_neg]
        simp [solid first List.mem_cons_self]
  rw [strip, keeps text solid, keeps text.reverse, List.reverse_reverse]
  exact fun byte member => solid byte (List.mem_reverse.mp member)

theorem IsIdentifier.isSimple
    {name : Name}
    (identifier : IsIdentifier name) :
    IsSimple name :=
  ⟨identifier.nonempty,
    fun byte member => (isWord_apart (identifier.word byte member)).2,
    strip_eq_self fun byte member => (isWord_apart (identifier.word byte member)).1⟩

/-- A text without a colon is not split. -/
theorem splitScopes_of_noColon
    {text : Name}
    (noColon : 58 ∉ text) :
    splitScopes text = [text] := by
  induction text with
  | nil => rfl
  | cons first rest inductionHypothesis =>
      rw [List.mem_cons, not_or] at noColon
      cases rest with
      | nil => rfl
      | cons second rest =>
          rw [splitScopes, if_neg (fun colons => noColon.1 colons.1.symm),
            inductionHypothesis noColon.2]

/-- A sequence has an opening bracket. -/
theorem reSequence_of_noBracket
    {text : Name}
    (noBracket : 60 ∉ text) :
    reSequence text = none := by
  rw [reSequence, Option.bind_eq_none_iff]
  intro rest found
  obtain ⟨start, rfl, same⟩ := List.dropPrefix?_eq_some_iff.mp found
  refine absurd ?_ noBracket
  rw [eq_of_beq same]
  exact List.mem_append_left _ (by decide)

/-- The group of a sequence runs up to its end. -/
theorem shortestGroup_append
    {text rest : Name}
    (nonempty : text ≠ [])
    (unmarked : ∀ byte ∈ text, byte ∉ [newline, 44, 58, 60, 62])
    (closed : closes rest = true) :
    shortestGroup (text ++ rest) = some text := by
  induction text with
  | nil => exact absurd rfl nonempty
  | cons first text inductionHypothesis =>
      obtain ⟨firstUnmarked, laterUnmarked⟩ := List.forall_mem_cons.mp unmarked
      have onLine : first ≠ newline := by
        intro same
        exact firstUnmarked (by simp [same])
      rw [List.cons_append, shortestGroup, if_neg onLine]
      cases text with
      | nil => rw [List.nil_append, if_pos closed]
      | cons second text =>
          have open_ : closes (second :: text ++ rest) = false := by
            have apart := laterUnmarked second List.mem_cons_self
            simp only [List.mem_cons, List.not_mem_nil, or_false, not_or] at apart
            simp [closes, apart.2.1, apart.2.2.2.2]
          rw [open_, inductionHypothesis (by simp) laterUnmarked]
          rfl

/-- A group contains the text before the first mark. -/
theorem prefix_of_shortestGroup
    {start rest group : Name}
    (unmarked : ∀ byte ∈ start, byte ∉ [newline, 44, 62])
    (found : shortestGroup (start ++ rest) = some group) :
    start <+: group := by
  induction start generalizing group with
  | nil => exact List.nil_prefix
  | cons first start inductionHypothesis =>
      obtain ⟨firstUnmarked, laterUnmarked⟩ := List.forall_mem_cons.mp unmarked
      have onLine : first ≠ newline := by
        intro same
        exact firstUnmarked (by simp [same])
      rw [List.cons_append, shortestGroup, if_neg onLine] at found
      split_ifs at found with closed
      · cases start with
        | nil =>
            obtain rfl := Option.some.inj found
            exact List.prefix_rfl
        | cons second start =>
            have apart := laterUnmarked second List.mem_cons_self
            simp only [List.mem_cons, List.not_mem_nil, or_false, not_or] at apart
            simp [closes, apart.2.1, apart.2.2] at closed
      · obtain ⟨later, foundLater, rfl⟩ := Option.map_eq_some_iff.mp found
        exact List.cons_prefix_cons.mpr
          ⟨rfl, inductionHypothesis laterUnmarked foundLater⟩

/-- A group consists of characters of the text. -/
theorem mem_of_mem_shortestGroup
    {text group : Name}
    (found : shortestGroup text = some group)
    {byte : UInt8}
    (member : byte ∈ group) :
    byte ∈ text := by
  induction text generalizing group with
  | nil => cases found
  | cons first rest inductionHypothesis =>
      rw [shortestGroup] at found
      split_ifs at found with ended closed
      · obtain rfl := Option.some.inj found
        exact List.mem_cons.mpr (.inl (List.mem_singleton.mp member))
      · obtain ⟨later, foundLater, rfl⟩ := Option.map_eq_some_iff.mp found
        rcases List.mem_cons.mp member with rfl | deeper
        · exact List.mem_cons_self
        · exact List.mem_cons_of_mem _ (inductionHypothesis foundLater deeper)

/-- The group of a sequence is looked for after its start. -/
theorem reSequence_sequence (text : Name) :
    reSequence (ascii "sequence<" ++ text) = shortestGroup text := by
  have start : (ascii "sequence<" ++ text).dropPrefix? (ascii "sequence<") =
      some text :=
    List.dropPrefix?_eq_some_iff.mpr ⟨_, rfl, beq_self_eq_true _⟩
  rw [reSequence, start, Option.bind_some]

/-- What is no space stays in a text that is stripped. -/
theorem mem_strip
    {text : Name}
    {byte : UInt8}
    (member : byte ∈ text)
    (solid : isSpace byte = false) :
    byte ∈ strip text := by
  have keeps : ∀ text : Name, byte ∈ text → byte ∈ text.dropWhile isSpace := by
    intro text member
    have split : text.takeWhile isSpace ++ text.dropWhile isSpace = text :=
      List.takeWhile_append_dropWhile
    rw [← split, List.mem_append] at member
    refine member.resolve_left fun dropped => ?_
    rw [List.mem_takeWhile_imp dropped] at solid
    cases solid
  exact List.mem_reverse.mpr
    (keeps _ (List.mem_reverse.mpr (keeps text member)))

/-- An element type that is found consists of characters of the text. -/
theorem mem_of_mem_sequenceElementType
    {text : Name}
    {byte : UInt8}
    (member : byte ∈ sequenceElementType text) :
    byte ∈ text := by
  rw [sequenceElementType] at member
  cases found : reSequence text with
  | none => simpa [found] using member
  | some group =>
      rw [found] at member
      obtain ⟨rest, start, grouped⟩ := Option.bind_eq_some_iff.mp found
      obtain ⟨opening, rfl, _⟩ := List.dropPrefix?_eq_some_iff.mp start
      have inReverse := (List.dropWhile_sublist isSpace).subset
        (List.mem_reverse.mp member)
      have inGroup := (List.dropWhile_sublist isSpace).subset
        (List.mem_reverse.mp inReverse)
      exact List.mem_append_right _ (mem_of_mem_shortestGroup grouped inGroup)

/-- A bound and the bracket after it close a sequence. -/
theorem closes_boundText
    (bound : Option ℕ)
    (rest : Name) :
    closes (IdlType.boundText (ascii ", ") bound ++ 62 :: rest) = true := by
  cases bound with
  | none => rfl
  | some bound =>
      have skipped : (32 :: (decimalNat bound ++ 62 :: rest)).dropWhile isSpace =
          decimalNat bound ++ 62 :: rest := by
        obtain ⟨first, others, text⟩ :=
          List.exists_cons_of_ne_nil (decimalNat_ne_nil bound)
        have digit : isDigit first = true :=
          isDigit_of_mem_decimalNat (by rw [text]; exact List.mem_cons_self)
        rw [List.dropWhile_cons_of_pos (by decide), text, List.cons_append,
          List.dropWhile_cons_of_neg]
        simp [(isWord_apart (isWord_of_isDigit digit)).1]
      change (afterBound ((32 :: (decimalNat bound ++ 62 :: rest)).dropWhile
        isSpace)).isSome = true
      rw [skipped, afterBound_decimalNat]
      rfl

/-! ## Bounded strings -/

/-- Skipped characters are dropped. -/
theorem reStringBoundSub_eq_drop
    (skipped : ℕ)
    (text : Name) :
    reStringBoundSub skipped text = reStringBoundSub 0 (text.drop skipped) := by
  induction text generalizing skipped with
  | nil => cases skipped <;> rfl
  | cons first rest inductionHypothesis =>
      cases skipped with
      | zero => rfl
      | succ skipped =>
          rw [reStringBoundSub, inductionHypothesis, List.drop_succ_cons]

/-- A text without brackets has no bounded string. -/
theorem reStringBoundSub_of_noBracket
    {text : Name}
    (noBracket : 60 ∉ text) :
    reStringBoundSub 0 text = text := by
  induction text with
  | nil => rfl
  | cons first rest inductionHypothesis =>
      have unbound : afterStringBound (first :: rest) = none := by
        rw [afterStringBound, Option.bind_eq_none_iff]
        intro after found
        obtain ⟨start, split, same⟩ := List.dropPrefix?_eq_some_iff.mp found
        refine absurd ?_ noBracket
        rw [split, eq_of_beq same]
        exact List.mem_append_left _ (by decide)
      rw [List.mem_cons, not_or] at noBracket
      rw [reStringBoundSub, unbound]
      dsimp only
      rw [inductionHypothesis noBracket.2]

/-- A bounded string is replaced, and what follows is looked through. -/
theorem reStringBoundSub_boundedString
    (bound : ℕ)
    (rest : Name) :
    reStringBoundSub 0 (ascii "string<" ++ (decimalNat bound ++ 62 :: rest)) =
      ascii "string" ++ reStringBoundSub 0 rest := by
  let after := decimalNat bound ++ 62 :: rest
  have letters : ascii "string<" ++ after = 115 :: (ascii "tring<" ++ after) := by
    have first : ascii "string<" = 115 :: ascii "tring<" := by
      decide
    rw [first, List.cons_append]
  have found : afterStringBound (ascii "string<" ++ after) = some rest := by
    have start : (ascii "string<" ++ after).dropPrefix? (ascii "string<") =
        some after :=
      List.dropPrefix?_eq_some_iff.mpr ⟨_, rfl, beq_self_eq_true _⟩
    rw [afterStringBound, start, Option.bind_some, afterBound_decimalNat]
  have matched : ascii "tring<" ++ after =
      (ascii "tring<" ++ decimalNat bound ++ [62]) ++ rest := by
    simp [after]
  rw [letters] at found ⊢
  rw [reStringBoundSub, found]
  dsimp only
  rw [reStringBoundSub_eq_drop, matched, List.length_append, Nat.add_sub_cancel,
    List.drop_left]

/-- The start of a sequence has no bounded string. -/
theorem reStringBoundSub_sequence (text : Name) :
    reStringBoundSub 0 (ascii "sequence<" ++ text) =
      ascii "sequence<" ++ reStringBoundSub 0 text := by
  have start : ascii "sequence<" = [115, 101, 113, 117, 101, 110, 99, 101, 60] := by
    decide
  have other : ascii "string<" = [115, 116, 114, 105, 110, 103, 60] := by
    decide
  simp [start, other, reStringBoundSub, afterStringBound, List.dropPrefix?]

/-- The text of a bound has a separator and digits. -/
theorem not_mem_boundText
    {byte : UInt8}
    (noSeparator : byte ∉ ascii ", ")
    (noDigit : ¬isDigit byte = true)
    (bound : Option ℕ) :
    byte ∉ IdlType.boundText (ascii ", ") bound := by
  cases bound with
  | none => simp [IdlType.boundText]
  | some bound =>
      intro member
      rcases List.mem_append.mp member with separator | digit
      · exact noSeparator separator
      · exact noDigit (isDigit_of_mem_decimalNat digit)

/-- A simple text has no bounded string. -/
theorem IsSimple.reStringBoundSub_append
    {text rest : Name}
    (simple : IsSimple text)
    (noBracket : 60 ∉ rest) :
    reStringBoundSub 0 (text ++ rest) = text ++ rest := by
  apply reStringBoundSub_of_noBracket
  intro member
  rcases List.mem_append.mp member with within | after
  · exact simple.unmarked 60 within (by decide)
  · exact noBracket after

/-! ## Parsed types -/

/-- A parsed type: string bounds have been dropped. -/
def IdlType.parsedText : IdlType → Name
  | .boolean => ascii "boolean"
  | .integer kind => kind.text
  | .string _ => ascii "string"
  | .enumeration _ name | .struct _ name => name
  | .sequence element bound =>
      ascii "sequence<" ++
        (element.parsedText ++ (boundText (ascii ", ") bound ++ ascii ">"))

/-- The types whose enumerations and structs are among some names. -/
def IdlType.Known (enums structs : List Name) : IdlType → Prop
  | .boolean | .integer _ | .string _ => True
  | .enumeration _ name => name ∈ enums
  | .struct _ name => name ∈ structs
  | .sequence element _ => element.Known enums structs

/-- The text of the integer types. -/
theorem isSimple_integer (kind : IntegerType) : IsSimple kind.text := by
  cases kind <;>
    exact ⟨by decide, List.all_iff_forall_prop.mp (by decide), by decide⟩

theorem isSimple_string : IsSimple (ascii "string") :=
  ⟨by decide, List.all_iff_forall_prop.mp (by decide), by decide⟩

/-- The element that is found of a sequence of sequences has an opening bracket. -/
theorem bracket_sequenceElementType
    (element : IdlType)
    (bound outerBound : Option ℕ) :
    60 ∈ sequenceElementType
      ((element.sequence bound).sequence outerBound).parsedText := by
  rw [sequenceElementType]
  cases found : reSequence
      ((element.sequence bound).sequence outerBound).parsedText with
  | none => exact List.mem_append_left _ (by decide)
  | some group =>
      rw [IdlType.parsedText, IdlType.parsedText, reSequence_sequence,
        List.append_assoc] at found
      have opened := prefix_of_shortestGroup
        (List.all_iff_forall_prop.mp (by decide)) found
      exact mem_strip (opened.subset (by decide)) (by decide)

/-- Names that types can be given. -/
structure TypeNames (enums structs : List Name) : Prop where
  identifiers : ∀ name ∈ enums ++ structs, IsIdentifier name

section Names

variable {enums structs : List Name}
variable (names : TypeNames enums structs)

include names

/-- Every type that is no sequence has a simple text. -/
theorem isSimple_parsedText
    {type : IdlType}
    (known : type.Known enums structs)
    (single : type.isSequence = false) :
    IsSimple type.parsedText := by
  cases type with
  | boolean =>
      exact ⟨by decide, List.all_iff_forall_prop.mp (by decide), by decide⟩
  | integer kind => exact isSimple_integer kind
  | string bound => exact isSimple_string
  | enumeration scope name =>
      exact (names.identifiers name (List.mem_append_left _ known)).isSimple
  | struct scope name =>
      exact (names.identifiers name (List.mem_append_right _ known)).isSimple
  | sequence element bound => cases single

/-- What follows a type is not part of a bounded string. -/
theorem reStringBoundSub_append
    {type : IdlType}
    (known : type.Known enums structs)
    {rest : Name}
    (noBracket : 60 ∉ rest) :
    reStringBoundSub 0 (type.text ++ rest) = type.parsedText ++ rest := by
  induction type generalizing rest with
  | boolean | integer | enumeration | struct =>
      exact (isSimple_parsedText names known rfl).reStringBoundSub_append noBracket
  | string bound =>
      cases bound with
      | none => exact isSimple_string.reStringBoundSub_append noBracket
      | some bound =>
          have replaced := reStringBoundSub_boundedString bound rest
          rw [reStringBoundSub_of_noBracket noBracket] at replaced
          rw [IdlType.text, IdlType.parsedText, ← replaced]
          simp [ascii]
  | sequence element bound inductionHypothesis =>
      have later : 60 ∉ IdlType.boundText (ascii ", ") bound ++ (62 :: rest) := by
        rw [List.mem_append, List.mem_cons, not_or, not_or]
        exact ⟨not_mem_boundText (by decide) (by decide) bound, by decide, noBracket⟩
      have opened : (element.sequence bound).text ++ rest =
          ascii "sequence<" ++ (element.text ++
            (IdlType.boundText (ascii ", ") bound ++ (62 :: rest))) := by
        simp [IdlType.text, ascii]
      rw [opened, reStringBoundSub_sequence, inductionHypothesis known later]
      simp [IdlType.parsedText, ascii]

/-- A type is parsed to its text without string bounds. -/
theorem reStringBoundSub_text
    {type : IdlType}
    (known : type.Known enums structs) :
    reStringBoundSub 0 type.text = type.parsedText := by
  have nothingAfter : (60 : UInt8) ∉ ([] : Name) := by
    simp
  simpa using reStringBoundSub_append names known nothingAfter

/-- A parsed type has no colon. -/
theorem noColon_parsedText
    {type : IdlType}
    (known : type.Known enums structs) :
    58 ∉ type.parsedText := by
  induction type with
  | boolean | integer | string | enumeration | struct =>
      exact fun member => (isSimple_parsedText names known rfl).unmarked 58 member
        (by decide)
  | sequence element bound inductionHypothesis =>
      rw [IdlType.parsedText, List.mem_append, List.mem_append, List.mem_append,
        not_or, not_or, not_or]
      exact ⟨by decide, inductionHypothesis known,
        not_mem_boundText (by decide) (by decide) bound, by decide⟩

/-! ## Sequences -/

/-- A type that is no sequence is not read as one. -/
theorem reSequence_of_single
    {type : IdlType}
    (known : type.Known enums structs)
    (single : type.isSequence = false) :
    reSequence type.parsedText = none := by
  apply reSequence_of_noBracket
  exact fun member => (isSimple_parsedText names known single).unmarked 60 member
    (by decide)

/-- The element of a sequence is found when it is no sequence itself. -/
theorem reSequence_of_flat
    {element : IdlType}
    (known : element.Known enums structs)
    (single : element.isSequence = false)
    (bound : Option ℕ) :
    reSequence (element.sequence bound).parsedText = some element.parsedText := by
  have simple := isSimple_parsedText names known single
  rw [IdlType.parsedText, reSequence_sequence]
  exact shortestGroup_append simple.nonempty simple.unmarked
    (closes_boundText bound [])

/-- The base of a type is found when it is no sequence. -/
theorem sequenceElementType_parsedText
    {type : IdlType}
    (known : type.Known enums structs)
    (flat : type.base.isSequence = false) :
    sequenceElementType type.parsedText = type.base.parsedText := by
  cases type with
  | sequence element bound =>
      have elementKnown : element.Known enums structs := known
      have single : element.isSequence = false := flat
      rw [sequenceElementType, reSequence_of_flat names elementKnown single bound]
      exact (isSimple_parsedText names elementKnown single).stripped
  | boolean | integer | string | enumeration | struct =>
      rw [sequenceElementType, reSequence_of_single names known rfl]
      rfl

end Names

end CycloneDDS
end StarterCpp
