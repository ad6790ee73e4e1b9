import StarterCpp.CycloneDDS.IdlParser

/-!
# How IDL files are written

A file has an optional module, in it enumerations and structs, and around them any
text without opening braces: directives, forward declarations and annotations.  The
word `module` does not stand in it before the module.  White space is free, fields may
be annotated, and comments may stand anywhere, as long as no other slashes do and a
line comment opens no block comment.
-/

namespace StarterCpp
namespace CycloneDDS

open Text

/-! ## Comments -/

/-- A part of a file: a text without slashes, or a comment. -/
inductive Piece
  | code (text : Name)
  | block (body : Name)
  | line (body : Name)

namespace Piece

/-- A part of a file as it is written. -/
def source : Piece → Name
  | .code text => text
  | .block body => ascii "/*" ++ body ++ ascii "*/"
  | .line body => ascii "//" ++ body ++ [newline]

/-- What is left of a part of a file without comments. -/
def clean : Piece → Name
  | .code text => text
  | .block _ => []
  | .line _ => [newline]

/-- A comment ends at its end, and a line comment opens no block comment. -/
def WellFormed : Piece → Prop
  | .code text => 47 ∉ text
  | .block body => ¬ascii "*/" <:+: body
  | .line body => newline ∉ body ∧ ¬ascii "/*" <:+: 47 :: body

instance : (piece : Piece) → Decidable piece.WellFormed
  | .code _ => inferInstanceAs (Decidable (¬_))
  | .block _ => inferInstanceAs (Decidable (¬_))
  | .line _ => inferInstanceAs (Decidable (_ ∧ ¬_))

end Piece

/-! ## Declarations -/

/-- A name, after white space that separates it and before white space. -/
structure Heading where
  gap : Name
  name : Name
  blank : Name
  gap_ne_nil : gap ≠ []
  gap_space : ∀ byte ∈ gap, isSpace byte = true
  name_ne_nil : name ≠ []
  name_word : ∀ byte ∈ name, isWord byte = true
  blank_space : ∀ byte ∈ blank, isSpace byte = true

namespace Heading

/-- A keyword with the name that it introduces. -/
def text (heading : Heading) (keyword : Name) : Name :=
  keyword ++ (heading.gap ++ (heading.name ++ heading.blank))

end Heading

/-- An annotation, with the text of its arguments and what stands before them. -/
structure Tag where
  name : Name
  arguments : Option (Name × Name)
  gap : Name
  name_ne_nil : name ≠ []
  name_word : ∀ byte ∈ name, isWord byte = true
  blank_space : ∀ written ∈ arguments, ∀ byte ∈ written.1, isSpace byte = true
  arguments_plain : ∀ written ∈ arguments,
    41 ∉ written.2 ∧ openBrace ∉ written.2 ∧ closeBrace ∉ written.2
  gap_ne_nil : gap ≠ []
  gap_space : ∀ byte ∈ gap, isSpace byte = true

namespace Tag

/-- The arguments as they are written. -/
def argumentsText (tag : Tag) : Name :=
  match tag.arguments with
  | none => []
  | some (blank, arguments) => blank ++ (40 :: (arguments ++ [41]))

def text (tag : Tag) : Name :=
  64 :: (tag.name ++ (tag.argumentsText ++ tag.gap))

end Tag

/-- A text that can stand for the type of a field. -/
structure IsTypeText (type : Name) : Prop where
  nonempty : type ≠ []
  typeByte : ∀ byte ∈ type, isTypeByte byte = true
  head_solid : ∀ byte ∈ type.head?, isSpace byte = false
  last_solid : ∀ byte ∈ type.getLast?, isSpace byte = false

instance (type : Name) : Decidable (IsTypeText type) :=
  decidable_of_iff
    (type ≠ [] ∧ type.all isTypeByte = true ∧
      type.head?.all (fun byte => isSpace byte = false) = true ∧
        type.getLast?.all (fun byte => isSpace byte = false) = true)
    ⟨fun ⟨nonempty, typeByte, head, last⟩ =>
        ⟨nonempty, List.all_eq_true.mp typeByte,
          fun byte isHead =>
            of_decide_eq_true ((Option.all_eq_true _ _).mp head byte isHead),
          fun byte isLast =>
            of_decide_eq_true ((Option.all_eq_true _ _).mp last byte isLast)⟩,
      fun ⟨nonempty, typeByte, head, last⟩ =>
        ⟨nonempty, List.all_eq_true.mpr typeByte,
          (Option.all_eq_true _ _).mpr fun byte isHead =>
            decide_eq_true (head byte isHead),
          (Option.all_eq_true _ _).mpr fun byte isLast =>
            decide_eq_true (last byte isLast)⟩⟩

/-- A field of a struct, after white space. -/
structure FieldLayout where
  lead : Name
  annotations : List Tag
  type : Name
  heading : Heading
  lead_space : ∀ byte ∈ lead, isSpace byte = true
  type_text : IsTypeText type

namespace FieldLayout

/-- The type and the name of a field. -/
def declaration (field : FieldLayout) : Name :=
  field.heading.text field.type ++ [59]

def text (field : FieldLayout) : Name :=
  field.lead ++ (field.annotations.flatMap Tag.text ++ field.declaration)

/-- A field as it is parsed. -/
def parsed (field : FieldLayout) : Name × Name :=
  (reStringBoundSub 0 field.type, field.heading.name)

end FieldLayout

/-- The declarations of a file. -/
inductive Declaration
  | enum (body : Name)
  | struct (fields : List FieldLayout) (tail : Name)

namespace Declaration

def keyword : Declaration → Name
  | .enum _ => ascii "enum"
  | .struct _ _ => ascii "struct"

/-- What is written in the braces of a declaration. -/
def body : Declaration → Name
  | .enum body => body
  | .struct fields tail => fields.flatMap FieldLayout.text ++ tail

/-- Nothing is nested in a declaration, and it is not empty. -/
def WellFormed : Declaration → Prop
  | .enum body => body ≠ [] ∧ openBrace ∉ body ∧ closeBrace ∉ body
  | .struct fields tail =>
      (fields.isEmpty = false ∨ tail ≠ []) ∧ ∀ byte ∈ tail, isSpace byte = true

instance : (declaration : Declaration) → Decidable declaration.WellFormed
  | .enum _ => inferInstanceAs (Decidable (_ ∧ _))
  | .struct _ _ => inferInstanceAs (Decidable (_ ∧ _))

end Declaration

/-- A declaration with its name, after a text without braces that may begin with the
end of what comes before. -/
structure Item where
  lead : Name
  heading : Heading
  declaration : Declaration
  lead_open : openBrace ∉ lead
  wellFormed : declaration.WellFormed

namespace Item

def text (item : Item) : Name :=
  item.lead ++ (item.heading.text item.declaration.keyword ++
    (openBrace :: (item.declaration.body ++ [closeBrace])))

/-- The enumeration that is declared. -/
def enum? (item : Item) : Option Name :=
  match item.declaration with
  | .enum _ => some item.heading.name
  | .struct _ _ => none

/-- The struct that is declared, as it is parsed. -/
def struct? (item : Item) : Option (Name × List (Name × Name)) :=
  match item.declaration with
  | .enum _ => none
  | .struct fields _ => some (item.heading.name, fields.map FieldLayout.parsed)

end Item

/-- The word `module` is followed by white space somewhere in a text. -/
def MentionsModule (text : Name) : Prop :=
  ∃ byte, isSpace byte = true ∧ ascii "module" ++ [byte] <:+: text

/-- A file without its comments: a preamble, the module, the declarations and the
rest. -/
structure Layout where
  preamble : Name
  module : Option Heading
  items : List Item
  tail : Name

namespace Layout

def moduleText (layout : Layout) : Name :=
  match layout.module with
  | none => []
  | some heading => heading.text (ascii "module") ++ [openBrace]

/-- The declarations and the rest. -/
def content (layout : Layout) : Name :=
  layout.items.flatMap Item.text ++ layout.tail

def text (layout : Layout) : Name :=
  layout.preamble ++ (layout.moduleText ++ layout.content)

/-- There are no more braces before the declarations and after them, and the word
`module` introduces the module. -/
structure WellFormed (layout : Layout) : Prop where
  preamble_open : openBrace ∉ layout.preamble
  tail_open : openBrace ∉ layout.tail
  preamble_module : ¬MentionsModule layout.preamble
  content_module : layout.module = none → ¬MentionsModule layout.text

/-- A file as it is parsed. -/
def parsed (layout : Layout) : ParsedFile where
  module := (layout.module.map Heading.name).getD []
  enums := layout.items.filterMap Item.enum?
  structs := layout.items.filterMap Item.struct?

end Layout

end CycloneDDS
end StarterCpp
