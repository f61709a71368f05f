/-!
# Log entries

What a job notes for its operator: a level, the part of the program that speaks, a message, and
named details.
-/
namespace CatalogSearch.Log

inductive Level where
  | error | warn | info | debug | trace
  deriving DecidableEq, Repr

namespace Level

/-- The rank of a level; a higher one is more talkative. -/
def rank : Level → Nat
  | .error => 1
  | .warn => 2
  | .info => 3
  | .debug => 4
  | .trace => 5

def name : Level → String
  | .error => "ERROR"
  | .warn => "WARN"
  | .info => "INFO"
  | .debug => "DEBUG"
  | .trace => "TRACE"

end Level

/-- One entry; the details are texts under their names. -/
structure Entry where
  level : Level
  target : String
  message : String
  details : List (String × String)
  deriving DecidableEq, Repr

/-- An entry on one line, with or without its target. -/
def Entry.line (showTarget : Bool) (e : Entry) : String :=
  String.intercalate " "
    ([e.level.name] ++ (if showTarget then [e.target ++ ":"] else []) ++ [e.message] ++
      e.details.map fun d => d.1 ++ "=" ++ d.2)

end CatalogSearch.Log
