import CatalogSearch.Record
import CatalogSearch.Time.Timestamp

/-!
# Documents

A document is the projection of one record into the search index: the searchable texts are lifted
out of the metadata, and the freshness is in normal form so that it can be compared.
-/
namespace CatalogSearch

open Json (Layout Source)

structure Document where
  id : String
  slug : String
  title : String
  description : String
  publisher : String
  keyword : List String
  theme : List String
  identifier : String
  organization : Organization
  popularity : Option Int
  lastHarvested : Option String
  dcat : Json
  deriving Inhabited, Repr

namespace Document

/-- A text of the metadata, empty if there is none. -/
def dcatText (dcat : Json) (key : String) : String :=
  ((dcat.get? key).bind Json.str?).getD ""

/-- A list of texts of the metadata: the texts of an array, or one text on its own. -/
def dcatTexts (dcat : Json) (key : String) : List String :=
  match dcat.get? key with
  | some (.arr items) => items.filterMap Json.str?
  | some (.str s) => [s]
  | _ => []

def ofRecord (r : Record) : Document where
  id := r.id
  slug := r.slug
  title := dcatText r.dcat "title"
  description := dcatText r.dcat "description"
  publisher := ((r.dcat.path? ["publisher", "name"]).bind Json.str?).getD ""
  keyword := dcatTexts r.dcat "keyword"
  theme := dcatTexts r.dcat "theme"
  identifier := dcatText r.dcat "identifier"
  organization := r.organization
  popularity := r.popularity
  lastHarvested := r.lastHarvested.bind Time.toUtc
  dcat := r.dcat

/-- The members of a document that have been read. -/
structure Slots where
  id : Option String := none
  slug : Option String := none
  title : Option String := none
  description : Option String := none
  publisher : Option String := none
  keyword : Option (List String) := none
  theme : Option (List String) := none
  identifier : Option String := none
  organization : Option Organization := none
  popularity : Option (Option Int) := none
  lastHarvested : Option (Option String) := none
  dcat : Option Json := none

def layout {m : Type → Type} [Source m] : Layout m Slots Document where
  title := "Document"
  names := ["id", "slug", "title", "description", "publisher", "keyword", "theme", "identifier",
    "organization", "popularity", "last_harvested_date", "dcat"]
  empty := {}
  put
    | "id" => some fun s => do return { s with id := some (← Source.text) }
    | "slug" => some fun s => do return { s with slug := some (← Source.text) }
    | "title" => some fun s => do return { s with title := some (← Source.text) }
    | "description" => some fun s => do return { s with description := some (← Source.text) }
    | "publisher" => some fun s => do return { s with publisher := some (← Source.text) }
    | "keyword" => some fun s => do return { s with keyword := some (← Source.texts) }
    | "theme" => some fun s => do return { s with theme := some (← Source.texts) }
    | "identifier" => some fun s => do return { s with identifier := some (← Source.text) }
    | "organization" => some fun s => do
      return { s with organization := some (← Source.record Organization.layout) }
    | "popularity" => some fun s => do
      return { s with popularity := some (← Source.optional Source.integer) }
    | "last_harvested_date" => some fun s => do
      return { s with lastHarvested := some (← Source.optional Source.text) }
    | "dcat" => some fun s => do return { s with dcat := some (← Source.value) }
    | _ => none
  seen
    | "id", s => s.id.isSome
    | "slug", s => s.slug.isSome
    | "title", s => s.title.isSome
    | "description", s => s.description.isSome
    | "publisher", s => s.publisher.isSome
    | "keyword", s => s.keyword.isSome
    | "theme", s => s.theme.isSome
    | "identifier", s => s.identifier.isSome
    | "organization", s => s.organization.isSome
    | "popularity", s => s.popularity.isSome
    | "last_harvested_date", s => s.lastHarvested.isSome
    | "dcat", s => s.dcat.isSome
    | _, _ => false
  finish s := do
    let id ← Json.required "id" s.id
    let slug ← Json.required "slug" s.slug
    let title ← Json.required "title" s.title
    let description ← Json.required "description" s.description
    let publisher ← Json.required "publisher" s.publisher
    let identifier ← Json.required "identifier" s.identifier
    let organization ← Json.required "organization" s.organization
    return ⟨id, slug, title, description, publisher, s.keyword.getD [], s.theme.getD [],
      identifier, organization, s.popularity.getD none, s.lastHarvested.getD none,
      s.dcat.getD .null⟩

def ofJson (value : Json) : Except String Document :=
  Json.FromValue.record layout value

/-- Every member of a document, in the order of declaration. -/
def toJson (d : Document) : Json := .obj [
  ("id", .str d.id), ("slug", .str d.slug), ("title", .str d.title),
  ("description", .str d.description), ("publisher", .str d.publisher),
  ("keyword", .strings d.keyword), ("theme", .strings d.theme),
  ("identifier", .str d.identifier), ("organization", d.organization.toJson),
  ("popularity", .optionalInt d.popularity),
  ("last_harvested_date", .optional d.lastHarvested), ("dcat", d.dcat)]

end Document

end CatalogSearch
