import Mathlib.Data.List.Basic
import Mathlib.Data.Nat.Digits.Defs

/-!
# Text

Texts are byte strings, and literals are ASCII.  Numbers print in decimal, with
or without leading zeros.  A text is read by lines as `std::getline` does: a line
ends at a newline, and the last one at the end of the text.
-/

namespace StarterCpp
namespace Text

/-- The bytes of a string of ASCII characters. -/
def ascii (text : String) : List UInt8 :=
  text.toList.map fun character => UInt8.ofNat character.toNat

/-! ## Numbers -/

/-- The decimal digits of a number, least significant first. -/
def digits (number : ℕ) : List ℕ :=
  if number = 0 then [0] else Nat.digits 10 number

theorem ofDigits_digits (number : ℕ) :
    Nat.ofDigits 10 (digits number) = number := by
  unfold digits
  split_ifs with zero
  · rw [zero]
    rfl
  · exact Nat.ofDigits_digits 10 number

theorem lt_of_mem_digits
    {number digit : ℕ}
    (member : digit ∈ digits number) :
    digit < 10 := by
  unfold digits at member
  split_ifs at member with zero
  · rw [List.mem_singleton.mp member]
    decide
  · exact Nat.digits_lt_base (by decide) member

/-- The character of a digit. -/
def digitByte (digit : ℕ) : UInt8 :=
  UInt8.ofNat (48 + digit)

/-- The digit of a character. -/
def byteDigit (byte : UInt8) : ℕ :=
  byte.toNat - 48

theorem byteDigit_digitByte
    {digit : ℕ}
    (isDigit : digit < 10) :
    byteDigit (digitByte digit) = digit := by
  simp only [byteDigit, digitByte, UInt8.toNat_ofNat']
  omega

/-- The decimal text of a natural number. -/
def decimalNat (number : ℕ) : List UInt8 :=
  ((digits number).map digitByte).reverse

/-- The number of a decimal text. -/
def valueNat (text : List UInt8) : ℕ :=
  Nat.ofDigits 10 (text.reverse.map byteDigit)

theorem valueNat_decimalNat (number : ℕ) :
    valueNat (decimalNat number) = number := by
  have readBack : (digits number).map (byteDigit ∘ digitByte) =
      (digits number).map id := by
    apply List.map_congr_left
    intro digit member
    exact byteDigit_digitByte (lt_of_mem_digits member)
  rw [valueNat, decimalNat, List.reverse_reverse, List.map_map, readBack,
    List.map_id, ofDigits_digits]

theorem decimalNat_injective : Function.Injective decimalNat :=
  Function.LeftInverse.injective valueNat_decimalNat

/-- A decimal text consists of digits. -/
theorem le_of_mem_decimalNat
    {number : ℕ}
    {byte : UInt8}
    (member : byte ∈ decimalNat number) :
    48 ≤ byte.toNat := by
  obtain ⟨digit, isDigit, rfl⟩ :=
    List.mem_map.mp (List.mem_reverse.mp member)
  have small := lt_of_mem_digits isDigit
  simp only [digitByte, UInt8.toNat_ofNat']
  omega

def minus : UInt8 := 45

/-- The decimal text of an integer: `std::to_string`. -/
def decimal : Int → List UInt8
  | .ofNat number => decimalNat number
  | .negSucc number => minus :: decimalNat (number + 1)

theorem decimal_injective : Function.Injective decimal := by
  have signed : ∀ number other : ℕ,
      decimalNat number ≠ minus :: decimalNat other := by
    intro number other same
    have first : minus ∈ decimalNat number := by
      rw [same]
      exact List.mem_cons_self
    have digit := le_of_mem_decimalNat first
    exact absurd digit (by decide)
  intro first second same
  cases first with
  | ofNat first =>
      cases second with
      | ofNat second => rw [decimalNat_injective same]
      | negSucc second => exact absurd same (signed first (second + 1))
  | negSucc first =>
      cases second with
      | ofNat second => exact absurd same.symm (signed second (first + 1))
      | negSucc second =>
          have sameDigits := decimalNat_injective (List.cons.inj same).2
          rw [Nat.succ.inj sameDigits]

/-- The text of a number with zeros in front up to a width, as `std::format`
pads: the sign comes first and counts. -/
def padded (width : ℕ) (number : Int) : List UInt8 :=
  let sign := if number < 0 then [minus] else []
  let text := decimalNat number.natAbs
  sign ++ List.replicate (width - sign.length - text.length) 48 ++ text

/-! ## Lines -/

def newline : UInt8 := 10

/-- The lines of a text, as a loop over `std::getline` reads them. -/
def getlines : List UInt8 → List (List UInt8)
  | [] => []
  | byte :: rest =>
      if byte = newline then [] :: getlines rest
      else
        match getlines rest with
        | [] => [[byte]]
        | line :: lines => (byte :: line) :: lines

@[simp] theorem getlines_nil : getlines [] = [] :=
  rfl

/-- A line with its newline is read as one line. -/
theorem getlines_line
    {line : List UInt8}
    (oneLine : newline ∉ line)
    (rest : List UInt8) :
    getlines (line ++ newline :: rest) = line :: getlines rest := by
  induction line with
  | nil => simp [getlines]
  | cons byte line inductionHypothesis =>
      rw [List.mem_cons, not_or] at oneLine
      have other : byte ≠ newline := fun same => oneLine.1 same.symm
      rw [List.cons_append, getlines, if_neg other,
        inductionHypothesis oneLine.2]

/-- Lines that were written with a newline each are read back. -/
theorem getlines_flatMap
    {lines : List (List UInt8)}
    (oneLine : ∀ line ∈ lines, newline ∉ line) :
    getlines (lines.flatMap fun line => line ++ [newline]) = lines := by
  induction lines with
  | nil => rfl
  | cons line lines inductionHypothesis =>
      rw [List.flatMap_cons, List.append_assoc, List.singleton_append,
        getlines_line (oneLine line List.mem_cons_self), inductionHypothesis]
      intro later member
      exact oneLine later (List.mem_cons_of_mem line member)

/-! ## Splitting a text -/

section Splitting

variable {Symbol : Type*}
variable {accepts : Symbol → Bool}
variable {lead otherLead rest otherRest : List Symbol}

/-- A text is split in one way where accepted symbols end. -/
theorem split_of_head
    (accepted : ∀ symbol ∈ lead, accepts symbol = true)
    (otherAccepted : ∀ symbol ∈ otherLead, accepts symbol = true)
    (stops : ∀ symbol ∈ rest.head?, accepts symbol = false)
    (otherStops : ∀ symbol ∈ otherRest.head?, accepts symbol = false)
    (same : lead ++ rest = otherLead ++ otherRest) :
    lead = otherLead ∧ rest = otherRest := by
  induction lead generalizing otherLead with
  | nil =>
      cases otherLead with
      | nil => exact ⟨rfl, same⟩
      | cons symbol otherLead =>
          rw [List.nil_append, List.cons_append] at same
          have refused := stops symbol (by rw [same]; rfl)
          simp [otherAccepted symbol List.mem_cons_self] at refused
  | cons symbol lead inductionHypothesis =>
      obtain ⟨acceptedHead, acceptedRest⟩ := List.forall_mem_cons.mp accepted
      cases otherLead with
      | nil =>
          rw [List.nil_append, List.cons_append] at same
          have refused := otherStops symbol (by rw [← same]; rfl)
          simp [acceptedHead] at refused
      | cons otherSymbol otherLead =>
          obtain ⟨rfl, sameRest⟩ := List.cons.inj same
          obtain ⟨rfl, rest⟩ := inductionHypothesis acceptedRest
            (List.forall_mem_cons.mp otherAccepted).2 sameRest
          exact ⟨rfl, rest⟩

/-- A text is split in one way where accepted symbols begin that go on to its end. -/
theorem split_of_last
    (accepted : ∀ symbol ∈ rest, accepts symbol = true)
    (otherAccepted : ∀ symbol ∈ otherRest, accepts symbol = true)
    (stops : ∀ symbol ∈ lead.getLast?, accepts symbol = false)
    (otherStops : ∀ symbol ∈ otherLead.getLast?, accepts symbol = false)
    (same : lead ++ rest = otherLead ++ otherRest) :
    lead = otherLead ∧ rest = otherRest := by
  have reversed : rest.reverse ++ lead.reverse =
      otherRest.reverse ++ otherLead.reverse := by
    rw [← List.reverse_append, ← List.reverse_append, same]
  have split := split_of_head
    (by simpa only [List.mem_reverse] using accepted)
    (by simpa only [List.mem_reverse] using otherAccepted)
    (by simpa only [List.head?_reverse] using stops)
    (by simpa only [List.head?_reverse] using otherStops) reversed
  exact ⟨List.reverse_injective split.2, List.reverse_injective split.1⟩

/-- A text is split in one way at the first place of a symbol. -/
theorem split_of_notMem
    {symbol : Symbol}
    (absent : symbol ∉ lead)
    (otherAbsent : symbol ∉ otherLead)
    (same : lead ++ symbol :: rest = otherLead ++ symbol :: otherRest) :
    lead = otherLead ∧ rest = otherRest := by
  induction lead generalizing otherLead with
  | nil =>
      cases otherLead with
      | nil => exact ⟨rfl, (List.cons.inj same).2⟩
      | cons otherSymbol otherLead =>
          rw [List.nil_append, List.cons_append] at same
          exact absurd List.mem_cons_self ((List.cons.inj same).1 ▸ otherAbsent)
  | cons first lead inductionHypothesis =>
      cases otherLead with
      | nil =>
          rw [List.nil_append, List.cons_append] at same
          exact absurd List.mem_cons_self ((List.cons.inj same).1 ▸ absent)
      | cons otherFirst otherLead =>
          obtain ⟨rfl, sameRest⟩ := List.cons.inj same
          obtain ⟨rfl, rest⟩ := inductionHypothesis
            (List.not_mem_of_not_mem_cons absent)
            (List.not_mem_of_not_mem_cons otherAbsent) sameRest
          exact ⟨rfl, rest⟩

end Splitting

example : padded 4 7 = ascii "0007" := by decide

end Text
end StarterCpp
