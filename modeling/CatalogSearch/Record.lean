import CatalogSearch.Json.Decode

/-!
# Catalog records

A record is one dataset as the authoritative store holds it: identity, its metadata as an opaque
JSON value, the organization that publishes it, and where it was harvested from.
-/
namespace CatalogSearch

open Json (Layout Source)

/-- The publishing organization, embedded in every record and document. -/
structure Organization where
  id : String
  name : String
  description : Option String
  slug : String
  organizationType : Option String
  deriving Inhabited, Repr, DecidableEq

structure HarvestSource where
  id : String
  name : String
  deriving Inhabited, Repr, DecidableEq

/-- One dataset of the authoritative store. -/
structure Record where
  id : String
  slug : String
  dcat : Json
  organization : Organization
  harvestSource : Option HarvestSource
  popularity : Option Int
  /-- Freshness, exactly as the store returned it. -/
  lastHarvested : Option String
  deriving Inhabited, Repr

def Json.optionalInt : Option Int → Json
  | some n => .int n
  | none => .null

namespace Json

/-- A member that must be there. -/
def required {α : Type} (name : String) : Option α → Except String α
  | some a => .ok a
  | none => .error name

end Json

namespace Organization

structure Slots where
  id : Option String := none
  name : Option String := none
  description : Option (Option String) := none
  slug : Option String := none
  organizationType : Option (Option String) := none

def layout {m : Type → Type} [Source m] : Layout m Slots Organization where
  title := "Organization"
  names := ["id", "name", "description", "slug", "organization_type"]
  empty := {}
  put
    | "id" => some fun s => do return { s with id := some (← Source.text) }
    | "name" => some fun s => do return { s with name := some (← Source.text) }
    | "description" => some fun s => do
      return { s with description := some (← Source.optional Source.text) }
    | "slug" => some fun s => do return { s with slug := some (← Source.text) }
    | "organization_type" => some fun s => do
      return { s with organizationType := some (← Source.optional Source.text) }
    | _ => none
  seen
    | "id", s => s.id.isSome
    | "name", s => s.name.isSome
    | "description", s => s.description.isSome
    | "slug", s => s.slug.isSome
    | "organization_type", s => s.organizationType.isSome
    | _, _ => false
  finish s := do
    let id ← Json.required "id" s.id
    let name ← Json.required "name" s.name
    let slug ← Json.required "slug" s.slug
    return ⟨id, name, s.description.getD none, slug, s.organizationType.getD none⟩

def toJson (o : Organization) : Json := .obj [
  ("id", .str o.id), ("name", .str o.name), ("description", .optional o.description),
  ("slug", .str o.slug), ("organization_type", .optional o.organizationType)]

end Organization

namespace HarvestSource

structure Slots where
  id : Option String := none
  name : Option String := none

def layout {m : Type → Type} [Source m] : Layout m Slots HarvestSource where
  title := "HarvestSourceRef"
  names := ["id", "name"]
  empty := {}
  put
    | "id" => some fun s => do return { s with id := some (← Source.text) }
    | "name" => some fun s => do return { s with name := some (← Source.text) }
    | _ => none
  seen
    | "id", s => s.id.isSome
    | "name", s => s.name.isSome
    | _, _ => false
  finish s := do
    let id ← Json.required "id" s.id
    let name ← Json.required "name" s.name
    return ⟨id, name⟩

def toJson (h : HarvestSource) : Json := .obj [("id", .str h.id), ("name", .str h.name)]

end HarvestSource

namespace Record

structure Slots where
  id : Option String := none
  slug : Option String := none
  dcat : Option Json := none
  organization : Option Organization := none
  harvestSource : Option (Option HarvestSource) := none
  popularity : Option (Option Int) := none
  lastHarvested : Option (Option String) := none

def layout {m : Type → Type} [Source m] : Layout m Slots Record where
  title := "CatalogRecord"
  names := ["id", "slug", "dcat", "organization", "harvest_source", "popularity",
    "last_harvested_date"]
  empty := {}
  put
    | "id" => some fun s => do return { s with id := some (← Source.text) }
    | "slug" => some fun s => do return { s with slug := some (← Source.text) }
    | "dcat" => some fun s => do return { s with dcat := some (← Source.value) }
    | "organization" => some fun s => do
      return { s with organization := some (← Source.record Organization.layout) }
    | "harvest_source" => some fun s => do
      return { s with
        harvestSource := some (← Source.optional (Source.record HarvestSource.layout)) }
    | "popularity" => some fun s => do
      return { s with popularity := some (← Source.optional Source.integer) }
    | "last_harvested_date" => some fun s => do
      return { s with lastHarvested := some (← Source.optional Source.text) }
    | _ => none
  seen
    | "id", s => s.id.isSome
    | "slug", s => s.slug.isSome
    | "dcat", s => s.dcat.isSome
    | "organization", s => s.organization.isSome
    | "harvest_source", s => s.harvestSource.isSome
    | "popularity", s => s.popularity.isSome
    | "last_harvested_date", s => s.lastHarvested.isSome
    | _, _ => false
  finish s := do
    let id ← Json.required "id" s.id
    let slug ← Json.required "slug" s.slug
    let dcat ← Json.required "dcat" s.dcat
    let organization ← Json.required "organization" s.organization
    return ⟨id, slug, dcat, organization, s.harvestSource.getD none, s.popularity.getD none,
      s.lastHarvested.getD none⟩

def ofJson (value : Json) : Except String Record :=
  Json.FromValue.record layout value

def toJson (r : Record) : Json := .obj [
  ("id", .str r.id), ("slug", .str r.slug), ("dcat", r.dcat),
  ("organization", r.organization.toJson),
  ("harvest_source", (r.harvestSource.map HarvestSource.toJson).getD .null),
  ("popularity", .optionalInt r.popularity),
  ("last_harvested_date", .optional r.lastHarvested)]

end Record

end CatalogSearch
