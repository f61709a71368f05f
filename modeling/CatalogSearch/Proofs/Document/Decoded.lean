import CatalogSearch.Document
import CatalogSearch.Proofs.Json.Reread

/-!
# Reading documents back

A document is written as one object in the order of its declaration and read from the ordered form
of that object. Nothing is lost on the way, as long as its metadata can be read back.
-/
namespace CatalogSearch

open Json

namespace Json

theorem ordered_optional (s : Option String) : (Json.optional s).ordered = .optional s := by
  cases s <;> rfl

theorem ordered_optionalInt (n : Option Int) : (optionalInt n).ordered = .optionalInt n := by
  cases n <;> rfl

theorem ordered_strings (items : List String) : (strings items).ordered = .strings items := by
  rw [strings, ordered, orderedItems_eq_map, List.map_map]
  rfl

theorem whole_optional (n : Nat) (s : Option String) : Whole n (.optional s) := by
  cases s with
  | none => exact .null
  | some s => exact .str s

theorem whole_optionalInt (n : Nat) {i : Option Int} (fits : ∀ k ∈ i, isSigned64 k = true) :
    Whole n (.optionalInt i) := by
  cases i with
  | none => exact .null
  | some k =>
    have signed := fits k rfl
    simp only [isSigned64, Bool.and_eq_true, decide_eq_true_eq] at signed
    have wider : (twoTo 63 : Int) ≤ twoTo 64 := by decide
    exact .int ⟨signed.1, by omega⟩

theorem whole_strings (n : Nat) (items : List String) : Whole (n + 1) (.strings items) := by
  refine .arr fun v mem => ?_
  obtain ⟨s, _, rfl⟩ := List.mem_map.1 mem
  exact .str s

theorem unembedded_optional (s : Option String) : Unembedded (.optional s) := by
  cases s with
  | none => exact .null
  | some s => exact .str s

theorem unembedded_optionalInt (i : Option Int) : Unembedded (.optionalInt i) := by
  cases i with
  | none => exact .null
  | some k => exact .int k

theorem unembedded_strings (items : List String) : Unembedded (.strings items) := by
  refine .arr fun v mem => ?_
  obtain ⟨s, _, rfl⟩ := List.mem_map.1 mem
  exact .str s

theorem optional_text (s : Option String) :
    FromValue.optional FromValue.text (.optional s) = .ok s := by
  cases s <;> rfl

theorem texts_strings (items : List String) : FromValue.texts (strings items) = .ok items := by
  have moved : List.mapM (m := Except String) FromValue.text (items.map Json.str) =
      List.mapM (m := Except String) (fun s => pure s) items := List.mapM_map ..
  have each : List.mapM (m := Except String) (fun s => pure s) items = .ok items := by
    rw [List.mapM_pure, List.map_id_fun']
    rfl
  exact moved.trans each

theorem optional_integer {n : Option Int} (fits : ∀ i ∈ n, isSigned64 i = true) :
    FromValue.optional FromValue.integer (.optionalInt n) = .ok n := by
  cases n with
  | none => rfl
  | some i =>
    have small := fits i rfl
    simp [FromValue.optional, optionalInt, FromValue.integer, small, Except.map]

/-- A known member is read into its slot. -/
theorem fill_known {σ α β : Type} (layout : Layout FromValue σ α) (name : String) {v : Json}
    {part : FromValue β} {put : σ → β → FromValue σ} {slots filled : σ} {b : β}
    (known : layout.put name = some fun slots => part >>= put slots) (reads : part v = .ok b)
    (puts : put slots b v = .ok filled) (rest : List (String × Json)) :
    FromValue.fill layout ((name, v) :: rest) slots = FromValue.fill layout rest filled := by
  have read : (part >>= put slots) v = .ok filled := by
    rw [← puts]
    exact congrArg (Except.bind · fun b => put slots b v) reads
  simp only [FromValue.fill, known, read, Except.bind]

end Json

namespace Organization

/-- The members in ascending order of their names. -/
theorem ordered_toJson (o : Organization) : o.toJson.ordered = .obj [
    ("description", .optional o.description), ("id", .str o.id), ("name", .str o.name),
    ("organization_type", .optional o.organizationType), ("slug", .str o.slug)] := by
  simp only [toJson, ordered, orderedMembers, ordered_optional, object, Keyed.ofList,
    List.foldl_cons, List.foldl_nil, Keyed.insert, String.reduceLT, String.reduceEq, ↓reduceIte]

theorem whole_toJson (n : Nat) (o : Organization) : Whole (n + 1) o.toJson := by
  apply Whole.obj
  simp [Whole.str, whole_optional]

theorem unembedded_toJson (o : Organization) : Unembedded o.toJson := by
  apply Unembedded.obj
  · simp [embeddedName]
  · simp [Unembedded.str, unembedded_optional]

/-- An organization is read from the ordered form of its object. -/
theorem record_ordered (o : Organization) :
    FromValue.record layout o.toJson.ordered = .ok o := by
  obtain ⟨id, name, description, slug, organizationType⟩ := o
  rw [ordered_toJson]
  cases description <;> cases organizationType <;> rfl

end Organization

namespace Document

/-- The members in ascending order of their names. -/
theorem ordered_toJson (d : Document) : d.toJson.ordered = .obj [
    ("dcat", d.dcat.ordered), ("description", .str d.description), ("id", .str d.id),
    ("identifier", .str d.identifier), ("keyword", .strings d.keyword),
    ("last_harvested_date", .optional d.lastHarvested),
    ("organization", d.organization.toJson.ordered), ("popularity", .optionalInt d.popularity),
    ("publisher", .str d.publisher), ("slug", .str d.slug), ("theme", .strings d.theme),
    ("title", .str d.title)] := by
  rw [toJson, ordered]
  simp only [orderedMembers, ordered, ordered_optional, ordered_optionalInt, ordered_strings,
    object, Keyed.ofList, List.foldl_cons, List.foldl_nil, Keyed.insert, String.reduceLT,
    String.reduceEq, ↓reduceIte]

/-- A document nests its metadata one level deeper. -/
theorem whole_toJson {n : Nat} {d : Document} (whole : Whole (n + 1) d.dcat)
    (fits : ∀ i ∈ d.popularity, isSigned64 i = true) : Whole (n + 2) d.toJson := by
  apply Whole.obj
  simp [Whole.str, whole_strings, whole_optional, whole_optionalInt _ fits,
    Organization.whole_toJson, whole]

theorem unembedded_toJson {d : Document} (plain : d.dcat.Unembedded) : Unembedded d.toJson := by
  apply Unembedded.obj
  · simp [embeddedName]
  · simp [Unembedded.str, unembedded_strings, unembedded_optional, unembedded_optionalInt,
      Organization.unembedded_toJson, plain]

/-- A document is read from the ordered form of its object. -/
theorem ofJson_ordered {d : Document} (sorted : d.dcat.ordered = d.dcat)
    (plain : d.dcat.Unembedded) (fits : ∀ n ∈ d.popularity, isSigned64 n = true) :
    ofJson d.toJson.ordered = .ok d := by
  have text (s : String) : FromValue.text (.str s) = .ok s := rfl
  have value := value_of_unembedded plain
  have org := d.organization.record_ordered
  have keyword := texts_strings d.keyword
  have theme := texts_strings d.theme
  have fresh := optional_text d.lastHarvested
  have popularity := optional_integer fits
  rw [ordered_toJson, sorted, ofJson, FromValue.record, fill_known layout "dcat" rfl value rfl,
    fill_known layout "description" rfl (text _) rfl, fill_known layout "id" rfl (text _) rfl,
    fill_known layout "identifier" rfl (text _) rfl, fill_known layout "keyword" rfl keyword rfl,
    fill_known layout "last_harvested_date" rfl fresh rfl,
    fill_known layout "organization" rfl org rfl,
    fill_known layout "popularity" rfl popularity rfl,
    fill_known layout "publisher" rfl (text _) rfl, fill_known layout "slug" rfl (text _) rfl,
    fill_known layout "theme" rfl theme rfl, fill_known layout "title" rfl (text _) rfl]
  rfl

end Document

end CatalogSearch
