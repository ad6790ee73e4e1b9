import StarterCpp.CycloneDDS.HeaderRoundTrip
import StarterCpp.CycloneDDS.IdlReadBack

/-!
# The header of IDL files

From texts that declare a schema the generator makes the header of the schema.  It
compiles when the header of the schema does, and then a value is read back from what
is written for it, unless its struct is not kept or it holds an integer that is too
large.
-/

namespace StarterCpp
namespace CycloneDDS

open Text

/-- The annotations of the fields that are declared. -/
def Item.annotations (item : Item) : List Tag :=
  match item.declaration with
  | .enum _ => []
  | .struct fields _ => fields.flatMap FieldLayout.annotations

namespace Schema

variable {schema : Schema}
variable {sources : List IdlSource}

end Schema

/-! ## Two files -/

end CycloneDDS
end StarterCpp
