import CatalogSearch.Json.Printer
import CatalogSearch.Text.Quoted

/-!
# Kinds of values

What a JSON value is called when it is not the one that was expected.
-/
namespace CatalogSearch.Json

/-- What a value is called in an error text. -/
def describe : Json → String
  | .null => "null"
  | .bool b => s!"boolean `{b}`"
  | .int n => s!"integer `{n}`"
  | .float x => s!"floating point `{(Json.float x).print}`"
  | .str s => "string " ++ Text.quoted s
  | .arr _ => "sequence"
  | .obj _ => "map"

def wrongType (value : Json) (expected : String) : String :=
  s!"invalid type: {value.describe}, expected {expected}"

/-- The value is of the expected kind but out of its range. -/
def wrongValue (value : Json) (expected : String) : String :=
  s!"invalid value: {value.describe}, expected {expected}"

end CatalogSearch.Json
