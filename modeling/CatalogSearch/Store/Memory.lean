import CatalogSearch.Failure
import CatalogSearch.Store.Call

/-!
# A store in memory

The records under their ids. Every question is answered from the records in ascending order of
their ids, and none fails.
-/
namespace CatalogSearch.Store

structure Memory where
  records : List (String × Record) := []
  deriving Inhabited, Repr

namespace Memory

def insert (r : Record) (m : Memory) : Memory :=
  ⟨Keyed.insert r.id r m.records⟩

def remove (id : String) (m : Memory) : Memory :=
  ⟨Keyed.erase id m.records⟩

/-- Overwrite the freshness of a record. -/
def touch (id : String) (freshness : Option String) (m : Memory) : Memory :=
  ⟨Keyed.adjust id (fun r => { r with lastHarvested := freshness }) m.records⟩

def all (m : Memory) : List Record := Keyed.values m.records

def answer (m : Memory) : (call : Call) → Except Failure call.Answer
  | .countAll => .ok m.records.length
  | .page number size => .ok ((m.all.drop (pageOffset number size)).take size)
  | .listing => .ok (m.all.map fun r => (r.id, r.lastHarvested))
  | .findById id => .ok (Keyed.find? id m.records)
  | .findBySlug slug => .ok (m.all.find? fun r => r.slug = slug)
  | .findByIds ids => .ok (ids.filterMap fun id => Keyed.find? id m.records)

end Memory

end CatalogSearch.Store
