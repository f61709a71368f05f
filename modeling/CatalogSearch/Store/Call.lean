import CatalogSearch.Record

/-!
# The authoritative store

The questions that jobs ask of the store of records, and the kind of answer to each. Pages are
counted from one and hold the records in ascending order of their ids.
-/
namespace CatalogSearch

/-- An id with the freshness that stands beside it in a listing. -/
abbrev Freshness : Type := String × Option String

namespace Store

inductive Call where
  | countAll
  | page (number size : Nat)
  | listing
  | findById (id : String)
  | findBySlug (slug : String)
  | findByIds (ids : List String)
  deriving DecidableEq, Repr

abbrev Call.Answer : Call → Type
  | .countAll => Nat
  | .page _ _ => List Record
  | .listing => List Freshness
  | .findById _ => Option Record
  | .findBySlug _ => Option Record
  | .findByIds _ => List Record

def Call.name : Call → String
  | .countAll => "count_all"
  | .page _ _ => "page"
  | .listing => "all_ids_and_timestamps"
  | .findById _ => "find_by_id"
  | .findBySlug _ => "find_by_slug"
  | .findByIds _ => "find_by_ids"

def wordLimit : Nat := twoTo 64 - 1

/-- The number of records before a page, as far as 64 bits count. -/
def pageOffset (number size : Nat) : Nat :=
  min ((number - 1) * size) wordLimit

end Store

end CatalogSearch
