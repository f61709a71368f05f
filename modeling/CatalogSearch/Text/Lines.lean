import CatalogSearch.Text.Blank

/-!
# Lines

A text as lines. A line break ends a line, and a carriage return before it belongs to the break; a
break at the very end opens no further line.
-/
namespace CatalogSearch.Text

/-- A line without the carriage return at its end. -/
def dropReturn (line : List Char) : List Char :=
  match line.reverse with
  | '\r' :: rest => rest.reverse
  | _ => line

def lines (s : String) : List String :=
  let parts := pieces (· = '\n') s.toList
  let ended := parts.dropLast.map fun line => String.ofList (dropReturn line)
  match parts.getLastD [] with
  | [] => ended
  | last => ended ++ [String.ofList last]

end CatalogSearch.Text
