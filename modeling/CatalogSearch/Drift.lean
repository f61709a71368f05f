import CatalogSearch.Keyed
import CatalogSearch.Store.Call
import CatalogSearch.Time.Timestamp

/-!
# Drift

The difference between the listing of the store and the listing of the index, from ids and
freshness alone. Freshness is compared in normal form; of two entries with one id the later one
counts.
-/
namespace CatalogSearch

/-- The normal forms of one id's freshness on both sides. -/
structure FreshnessPair where
  index : String
  store : String
  deriving DecidableEq, Repr

/-- The difference of two listings. The three sets are disjoint and ascending. -/
structure Drift where
  /-- In the store and not in the index. -/
  missing : List String := []
  /-- In the index and not in the store. -/
  extra : List String := []
  /-- In both, with different freshness. -/
  updated : List (String × FreshnessPair) := []
  deriving DecidableEq, Repr, Inhabited

namespace Drift

/-- A listing as a keyed list of normal forms. -/
def normalized (listing : List Freshness) : List (String × String) :=
  Keyed.ofList (listing.map fun e => (e.1, Time.normalize e.2))

def between (store index : List Freshness) : Drift :=
  let store := normalized store
  let index := normalized index
  { missing := Keyed.keys (store.filter fun e => !Keyed.contains e.1 index)
    extra := Keyed.keys (index.filter fun e => !Keyed.contains e.1 store)
    updated := store.filterMap fun e =>
      match Keyed.find? e.1 index with
      | some indexed => if indexed = e.2 then none else some (e.1, ⟨indexed, e.2⟩)
      | none => none }

def isClean (d : Drift) : Bool :=
  d.missing.isEmpty && d.extra.isEmpty && d.updated.isEmpty

/-- The ids whose documents must be written, ascending. -/
def idsToIndex (d : Drift) : List String :=
  (d.missing ++ Keyed.keys d.updated).mergeSort fun a b => decide (a ≤ b)

end Drift

end CatalogSearch
