import StarterCpp.Library.Text
import StarterCpp.PubSub.FragmentHeader

/-!
# JSON values

The application builds, prints and parses JSON with a library.  Its printer and
parser are parameters; its values and the accessors that the application uses are
given here.  An accessor that throws returns nothing.
-/

namespace StarterCpp
namespace Omniscope

open PubSub Text

/-- A JSON value.  A number that is no 64-bit integer keeps its literal. -/
inductive Json
  | null
  | boolean (value : Bool)
  | integer (value : Int64)
  | real (literal : ByteString)
  | string (text : ByteString)
  | list (elements : List Json)
  | object (members : List (ByteString × Json))

/-- The printer, the parser and the conversion of literals to integers. -/
structure Crow where
  load : ByteString → Option Json
  dump : Json → ByteString
  lexicalCast : ByteString → Option Int64

namespace Json

/-- The member of an object. -/
def member (key : ByteString) : Json → Option Json
  | .object members => members.lookup key
  | .null | .boolean _ | .integer _ | .real _ | .string _ | .list _ => none

/-- The text of a string. -/
def s : Json → Option ByteString
  | .string text => some text
  | .null | .boolean _ | .integer _ | .real _ | .list _ | .object _ => none

end Json

namespace Crow

/-- The integer value of a number or of a string. -/
def i (crow : Crow) : Json → Option Int64
  | .integer value => some value
  | .real literal | .string literal => crow.lexicalCast literal
  | .null | .boolean _ | .list _ | .object _ => none

/-- A value is printed on one non-empty line, which is parsed back to it. -/
structure PrintsOnOneLine (crow : Crow) (value : Json) : Prop where
  nonempty : crow.dump value ≠ []
  oneLine : newline ∉ crow.dump value
  readBack : crow.load (crow.dump value) = some value

end Crow

end Omniscope
end StarterCpp
