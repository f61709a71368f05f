import CatalogSearch.Keyed
import CatalogSearch.Number.Double

/-!
# JSON values

A value keeps whole numbers apart from numbers with a fraction or an exponent. The members of an
object form a list of pairs; `Json.object` builds the ordered form, in which every key stands once
and the keys ascend by code point.
-/
namespace CatalogSearch

inductive Json where
  | null
  | bool (value : Bool)
  | int (value : Int)
  | float (value : Double)
  | str (value : String)
  | arr (items : List Json)
  | obj (members : List (String × Json))
  deriving Inhabited, Repr, BEq

namespace Json

/-- The object with the given members, ordered by key; of two with one key the later counts. -/
def object (members : List (String × Json)) : Json :=
  .obj (Keyed.ofList members)

def nat (n : Nat) : Json := .int n

def strings (items : List String) : Json := .arr (items.map .str)

/-- An optional string as a value, `null` if there is none. -/
def optional : Option String → Json
  | some s => .str s
  | none => .null

def get? (key : String) : Json → Option Json
  | .obj members => Keyed.find? key members
  | _ => none

/-- The member of an object, `null` if there is none. -/
def get (key : String) (value : Json) : Json :=
  (value.get? key).getD .null

/-- The value at the end of a path of keys. -/
def path? : List String → Json → Option Json
  | [], value => some value
  | key :: rest, value => (value.get? key).bind (path? rest)

def str? : Json → Option String
  | .str s => some s
  | _ => none

/-- A whole number that is not negative. -/
def nat? : Json → Option Nat
  | .int n => if 0 ≤ n then some n.toNat else none
  | _ => none

def arr? : Json → Option (List Json)
  | .arr items => some items
  | _ => none

def obj? : Json → Option (List (String × Json))
  | .obj members => some members
  | _ => none

def isNull : Json → Bool
  | .null => true
  | _ => false

end Json

end CatalogSearch
