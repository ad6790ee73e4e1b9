import StarterCpp.CycloneDDS.Idl
import StarterCpp.Library.Entries

/-!
# The generated code

The helpers that the generator emits are C++ functions `toJson` and `fromJson`
for each struct, one line a field.  A helper may call those that stand before it.
A header compiles when each of its lines does; then it gives each struct its two
functions.  Members are read and written with `m.f()` or `m.f`, as the vendor has
it, which is no C++ when `f` is a keyword.
-/

namespace StarterCpp
namespace CycloneDDS

open Entries Text

/-! ## JSON values -/

/-- A `crow::json` value without floating-point numbers. -/
inductive CrowValue
  | null
  | boolean (value : Bool)
  | integer (number : ℤ)
  | string (text : Name)
  | list (elements : List CrowValue)
  | object (members : List (Name × CrowValue))

/-- The accessors of `crow::json::rvalue`. -/
inductive Accessor
  | b
  | i
  | d
  | s
  deriving DecidableEq, Repr

namespace CrowValue

/-- `j[name] = value`. -/
def setMember (j : CrowValue) (name : Name) (value : CrowValue) : CrowValue :=
  match j with
  | .object members => .object (assign name value members)
  | .null | .boolean _ | .integer _ | .string _ | .list _ => .object [(name, value)]

/-- `j[index] = value`, which makes a list long enough. -/
def setIndex (j : CrowValue) (index : ℕ) (value : CrowValue) : CrowValue :=
  match j with
  | .list elements =>
      .list ((elements ++
        List.replicate (index + 1 - elements.length) null).set index value)
  | .null | .boolean _ | .integer _ | .string _ | .object _ =>
      .list ((List.replicate (index + 1) null).set index value)

/-- `d[name]`, which throws if there is no such member. -/
def member (name : Name) : CrowValue → Option CrowValue
  | .object members => members.lookup name
  | .null | .boolean _ | .integer _ | .string _ | .list _ => none

/-- The elements of a list, over which a loop runs. -/
def elements : CrowValue → Option (List CrowValue)
  | .list elements => some elements
  | .null | .boolean _ | .integer _ | .string _ | .object _ => none

end CrowValue

/-! ## Types -/

/-- The name of a C++ type with the namespaces it stands in. -/
abbrev CppName := List Name

/-- `::module::name`, or `::name` outside of a module. -/
def cppName (module name : Name) : CppName :=
  if module = [] then [name] else [module, name]

/-- The keywords of C++20. -/
def cppKeywords : List Name :=
  ["alignas", "alignof", "and", "and_eq", "asm", "auto", "bitand", "bitor", "bool",
    "break", "case", "catch", "char", "char8_t", "char16_t", "char32_t", "class",
    "compl", "concept", "const", "consteval", "constexpr", "constinit", "const_cast",
    "continue", "co_await", "co_return", "co_yield", "decltype", "default", "delete",
    "do", "double", "dynamic_cast", "else", "enum", "explicit", "export", "extern",
    "false", "float", "for", "friend", "goto", "if", "inline", "int", "long",
    "mutable", "namespace", "new", "noexcept", "not", "not_eq", "nullptr", "operator",
    "or", "or_eq", "private", "protected", "public", "register", "reinterpret_cast",
    "requires", "return", "short", "signed", "sizeof", "static", "static_assert",
    "static_cast", "struct", "switch", "template", "this", "thread_local", "throw",
    "true", "try", "typedef", "typeid", "typename", "union", "unsigned", "using",
    "virtual", "void", "volatile", "wchar_t", "while", "xor", "xor_eq"].map ascii

/-- Whether a name can be written in C++: no part of it is a keyword. -/
def CppName.isSpelled (name : CppName) : Bool :=
  name.all fun part => !cppKeywords.contains part

/-- The names that mean something else in the body of `fromJson`: its parameter, its
variable and the functions of the header. -/
def localNames : List Name :=
  [ascii "d", ascii "m", ascii "toJson", ascii "fromJson"]

/-- Whether a name means a type in the body of `fromJson`, where a name outside of the
modules stands by itself. -/
def CppName.isVisible : CppName → Bool
  | [name] => !(localNames ++ cppKeywords).contains name
  | name => name.isSpelled

/-- The C++ types of the members of the classes. -/
inductive CppType
  | bool
  | integer (kind : IntegerType)
  | string
  | enumeration (name : CppName)
  | struct (name : CppName)
  | vector (element : CppType)
  deriving DecidableEq, Repr

/-- The C++ type that the IDL compiler takes for a type. -/
def IdlType.cppType : IdlType → CppType
  | .boolean => .bool
  | .integer kind => .integer kind
  | .string _ => .string
  | .enumeration scope name => .enumeration (cppName scope name)
  | .struct scope name => .struct (cppName scope name)
  | .sequence element _ => .vector element.cppType

/-- A class that the IDL compiler generates for a struct. -/
structure CppClass where
  name : CppName
  members : List (Name × CppType)
  deriving DecidableEq, Repr

/-- The type of what `m.field()` or `m.field` means for a class.  A keyword means no
member, and the name of the class means its constructor. -/
def CppClass.accessed (cls : CppClass) (field : Name) : Option CppType :=
  if (cls.name.getLastD [] :: cppKeywords).contains field then none
  else cls.members.lookup field

/-- The class of a struct, whose fields have no annotation that gives a member another
type. -/
def IdlStruct.cppClass (struct : IdlStruct) : CppClass where
  name := cppName struct.module struct.name
  members := struct.fields.map fun field => (field.name, field.type.cppType)

/-- The two functions of a struct that has been compiled, and a new object. -/
structure Compiled where
  name : CppName
  initial : Value
  toJson : Value → Option CrowValue
  fromJson : CrowValue → Option Value

/-- The functions of a struct, if they have been declared. -/
def functionsOf (declared : List Compiled) (name : CppName) : Option Compiled :=
  declared.find? fun functions => functions.name = name

/-- A new value of a type. -/
def CppType.initial (declared : List Compiled) : CppType → Option Value
  | .bool => some (.boolean false)
  | .integer kind => some (.integer kind (kind.convert 0))
  | .string => some (.string [])
  | .enumeration _ => some (.enumerator (IntegerType.long.convert 0))
  | .struct name => (functionsOf declared name).map Compiled.initial
  | .vector _ => some (.sequence [])

/-! ## The expressions of `toJson` -/

/-- What is assigned to an entry of `j`, from an operand `e`. -/
inductive ToJsonRhs
  /-- `e` -/
  | copy
  /-- `static_cast<int>(e)` -/
  | castInt
  /-- `toJson(e)` -/
  | call
  deriving DecidableEq, Repr

/-- Whether `crow::json::wvalue` can be assigned from a type. -/
def CppType.assignable : CppType → Bool
  | .bool | .integer _ | .string => true
  | .vector element => element.assignable
  | .enumeration _ | .struct _ => false

/-- A C++ value assigned to a `crow::json::wvalue`. -/
def CppType.copied : CppType → Value → Option CrowValue
  | .bool, .boolean value => some (.boolean value)
  | .integer _, .integer _ number => some (.integer number.val)
  | .string, .string text => some (.string text)
  | .vector element, .sequence values => (values.mapM element.copied).map .list
  | _, _ => none

namespace ToJsonRhs

/-- Whether an expression compiles for an operand of a type. -/
def compiles (declared : List Compiled) : ToJsonRhs → CppType → Bool
  | .copy, type => type.assignable
  | .castInt, .bool | .castInt, .integer _ | .castInt, .enumeration _ => true
  | .call, .struct name => (functionsOf declared name).isSome
  | _, _ => false

/-- The value of an expression for an operand of a type. -/
def eval (declared : List Compiled) : ToJsonRhs → CppType → Value → Option CrowValue
  | .copy, type, operand => type.copied operand
  | .castInt, _, .boolean value => some (.integer value.toNat)
  | .castInt, _, .integer _ number =>
      some (.integer (IntegerType.long.convert number.val).val)
  | .castInt, _, .enumerator number => some (.integer number.val)
  | .call, .struct name, operand =>
      (functionsOf declared name).bind fun functions => functions.toJson operand
  | _, _, _ => none

end ToJsonRhs

/-! ## The expressions of `fromJson` -/

/-- What is written to a member, from a JSON operand `e`. -/
inductive FromJsonExpr
  /-- `e.accessor()` -/
  | access (accessor : Accessor)
  /-- `static_cast<kind>(e.accessor())` -/
  | cast (kind : IntegerType) (accessor : Accessor)
  /-- `static_cast<name>(e.i())` -/
  | castEnum (name : CppName)
  /-- `fromJson(e, static_cast<name const *>(nullptr))` -/
  | call (name : CppName)
  deriving DecidableEq, Repr

/-- The type of an accessor; floating point is left out. -/
def Accessor.type : Accessor → Option CppType
  | .b => some .bool
  | .i => some (.integer .longLong)
  | .d => none
  | .s => some .string

/-- The value of an accessor.  `i` returns a number that fits 64 bits. -/
def Accessor.read : Accessor → CrowValue → Option Value
  | .b, .boolean value => some (.boolean value)
  | .i, .integer number =>
      if -2 ^ 63 ≤ number ∧ number < 2 ^ 63 then
        some (.integer .longLong (IntegerType.longLong.convert number))
      else none
  | .s, .string text => some (.string text)
  | _, _ => none

/-- Whether a type is converted to another one without a cast: between integers,
or to itself. -/
def CppType.converts : CppType → CppType → Bool
  | .integer _, .integer _ => true
  | source, target => source = target

/-- A value converted to a type. -/
def CppType.converted : CppType → Value → Value
  | .integer kind, .integer _ number => .integer kind (kind.convert number.val)
  | _, value => value

namespace FromJsonExpr

/-- The type of an expression, if it compiles. -/
def type (declared : List Compiled) : FromJsonExpr → Option CppType
  | .access accessor => accessor.type
  | .cast kind accessor =>
      match accessor.type with
      | some (.integer _) => some (.integer kind)
      | _ => none
  | .castEnum name => if name.isVisible then some (.enumeration name) else none
  | .call name =>
      if name.isVisible then (functionsOf declared name).map fun _ => .struct name
      else none

/-- Whether an expression compiles where a type is expected. -/
def compiles (declared : List Compiled) (expr : FromJsonExpr) (target : CppType) :
    Bool :=
  match expr.type declared with
  | some source => source.converts target
  | none => false

/-- The value of an expression for a JSON operand. -/
def value (declared : List Compiled) : FromJsonExpr → CrowValue → Option Value
  | .access accessor, operand => accessor.read operand
  | .cast kind accessor, operand =>
      (accessor.read operand).map (CppType.integer kind).converted
  | .castEnum _, operand =>
      match Accessor.i.read operand with
      | some (.integer _ number) =>
          some (.enumerator (IntegerType.long.convert number.val))
      | _ => none
  | .call name, operand =>
      (functionsOf declared name).bind fun functions => functions.fromJson operand

/-- The value of an expression where a type is expected. -/
def eval
    (declared : List Compiled)
    (expr : FromJsonExpr)
    (target : CppType)
    (operand : CrowValue) : Option Value :=
  (expr.value declared operand).map target.converted

end FromJsonExpr

/-! ## Functions -/

/-- A line of `toJson`. -/
inductive ToJsonLine
  /-- `j["field"] = rhs(m.field());` -/
  | assign (field : Name) (rhs : Option ToJsonRhs)
  /-- `j["field"]` becomes a list, and its elements `rhs(m.field()[_i])`. -/
  | loop (field : Name) (rhs : ToJsonRhs)
  deriving DecidableEq, Repr

namespace ToJsonLine

/-- Whether a line compiles for the class of `m`. -/
def compiles (declared : List Compiled) (cls : CppClass) : ToJsonLine → Bool
  | .assign field (some rhs) =>
      match cls.accessed field with
      | some type => rhs.compiles declared type
      | none => false
  | .assign _ none => false
  | .loop field rhs =>
      match cls.accessed field with
      | some (.vector element) => rhs.compiles declared element
      | _ => false

/-- The loop over the elements of a member from an index on. -/
def fill
    (declared : List Compiled)
    (field : Name)
    (rhs : ToJsonRhs)
    (type : CppType) : ℕ → List Value → CrowValue → Option CrowValue
  | _, [], j => some j
  | index, element :: elements, j => do
      let written ← rhs.eval declared type element
      let entry := ((j.member field).getD .null).setIndex index written
      fill declared field rhs type (index + 1) elements (j.setMember field entry)

/-- The value of `j` after a line. -/
def run
    (declared : List Compiled)
    (cls : CppClass)
    (members : List (Name × Value))
    (j : CrowValue) : ToJsonLine → Option CrowValue
  | .assign field rhs => do
      let written ← (← rhs).eval declared (← cls.accessed field)
        (← members.lookup field)
      return j.setMember field written
  | .loop field rhs =>
      match cls.accessed field, members.lookup field with
      | some (.vector type), some (.sequence elements) =>
          fill declared field rhs type 0 elements (j.setMember field (.list []))
      | _, _ => none

end ToJsonLine

/-- A line of `fromJson`. -/
inductive FromJsonLine
  /-- `m.field(expr(d["field"]));` -/
  | set (field : Name) (expr : Option FromJsonExpr)
  /-- `m.field().push_back(expr(_elem));` for each element of `d["field"]`. -/
  | loop (field : Name) (expr : FromJsonExpr)
  deriving DecidableEq, Repr

namespace FromJsonLine

/-- Whether a line compiles for the class of `m`. -/
def compiles (declared : List Compiled) (cls : CppClass) : FromJsonLine → Bool
  | .set field (some expr) =>
      match cls.accessed field with
      | some type => expr.compiles declared type
      | none => false
  | .set _ none => false
  | .loop field expr =>
      match cls.accessed field with
      | some (.vector element) => expr.compiles declared element
      | _ => false

/-- The elements of a member after values have been pushed back to it. -/
def push
    (declared : List Compiled)
    (expr : FromJsonExpr)
    (type : CppType) : List CrowValue → List Value → Option (List Value)
  | [], values => some values
  | element :: elements, values => do
      let value ← expr.eval declared type element
      push declared expr type elements (values ++ [value])

/-- The members of `m` after a line. -/
def run
    (declared : List Compiled)
    (cls : CppClass)
    (d : CrowValue)
    (members : List (Name × Value)) : FromJsonLine → Option (List (Name × Value))
  | .set field expr => do
      let value ← (← expr).eval declared (← cls.accessed field)
        (← d.member field)
      return assign field value members
  | .loop field expr => do
      let elements ← (← d.member field).elements
      match cls.accessed field, members.lookup field with
      | some (.vector type), some (.sequence values) =>
          let pushed ← push declared expr type elements values
          return assign field (.sequence pushed) members
      | _, _ => none

end FromJsonLine

/-- The two functions of a struct, as they are emitted. -/
structure Helper where
  name : CppName
  toJson : List ToJsonLine
  fromJson : List FromJsonLine
  deriving DecidableEq, Repr

namespace Helper

/-- `toJson(m)`: `j` starts as null and is returned. -/
def runToJson
    (helper : Helper)
    (declared : List Compiled)
    (cls : CppClass) : Value → Option CrowValue
  | .struct members =>
      helper.toJson.foldlM (ToJsonLine.run declared cls members) .null
  | .boolean _ | .integer _ _ | .string _ | .enumerator _ | .sequence _ => none

/-- `fromJson(d)`: `m` starts as a new object and is returned. -/
def runFromJson
    (helper : Helper)
    (declared : List Compiled)
    (cls : CppClass)
    (initial : List (Name × Value))
    (d : CrowValue) : Option Value :=
  (helper.fromJson.foldlM (FromJsonLine.run declared cls d) initial).map .struct

/-- The members of a new object of a class. -/
def initialMembers
    (declared : List Compiled)
    (cls : CppClass) : Option (List (Name × Value)) :=
  cls.members.mapM fun member =>
    (member.2.initial declared).map fun value => (member.1, value)

/-- Compile the two functions after those declared so far. -/
def compile
    (classes : List CppClass)
    (declared : List Compiled)
    (helper : Helper) : Option Compiled := do
  let cls ← classes.find? fun cls => cls.name = helper.name
  let initial ← initialMembers declared cls
  if helper.name.isSpelled && helper.toJson.all (ToJsonLine.compiles declared cls) &&
      helper.fromJson.all (FromJsonLine.compiles declared cls) then
    return {
      name := helper.name
      initial := .struct initial
      toJson := helper.runToJson declared cls
      fromJson := helper.runFromJson declared cls initial }
  else none

end Helper

/-- Compile a header; nothing if a line does not compile. -/
def compileHeader (classes : List CppClass) (header : List Helper) :
    Option (List Compiled) :=
  header.foldlM (fun declared helper =>
    (helper.compile classes declared).map fun functions => declared ++ [functions])
    []

end CycloneDDS
end StarterCpp
