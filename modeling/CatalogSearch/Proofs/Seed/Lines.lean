import CatalogSearch.Proofs.Json.InOrder
import CatalogSearch.Seed

/-!
# Lines of a seed

The metadata that a line brings is in order, however the line was written.
-/
namespace CatalogSearch

open Json (FromText InOrder Layout Yields)

/-- A step of reading and what is made of it. -/
theorem Json.yields_andThen {α β : Type} {step : FromText α} {next : α → FromText β} {p : β → Prop}
    {depth : Nat} {cur : Json.Cursor}
    (each : ∀ a after, step depth cur = .ok (a, after) → Yields p (next a depth after)) :
    Yields p ((step >>= next) depth cur) := by
  change Yields p ((step depth cur).bind fun r => next r.1 depth r.2)
  cases read : step depth cur with
  | error message => exact .error
  | ok r => exact each r.1 r.2 read

/-- The metadata of a record is in order when it is read. -/
theorem Record.keeps_layout :
    Layout.Keeps Record.layout (fun s => ∀ v ∈ s.dcat, InOrder v) fun r => InOrder r.dcat where
  empty := by simp [Record.layout]
  put := by
    intro name read there slots depth cur holds
    simp only [Record.layout] at there
    split at there
    case h_3 =>
      obtain rfl := Option.some.inj there
      apply Json.yields_andThen
      intro v after read
      apply Yields.ok
      rintro w ⟨⟩
      exact Json.yields_readValue _ _ _ _ read
    case h_8 => cases there
    all_goals
      obtain rfl := Option.some.inj there
      exact Json.yields_andThen fun _ _ _ => .ok holds
  finish := by
    intro slots r holds done
    simp only [Record.layout] at done
    cases hid : slots.id <;> cases hslug : slots.slug <;> cases hdcat : slots.dcat <;>
      cases horg : slots.organization <;>
      simp [hid, hslug, hdcat, horg, Json.required, bind, Except.bind, pure, Except.pure] at done
    subst done
    exact holds _ hdcat

namespace SeedEntry

theorem keeps_layout :
    Layout.Keeps SeedEntry.layout (fun s => ∀ v ∈ s.rest.dcat, InOrder v)
      fun e => InOrder e.record.dcat where
  empty := by simp [SeedEntry.layout]
  put := by
    intro name read there slots depth cur holds
    simp only [SeedEntry.layout] at there
    split at there
    · obtain rfl := Option.some.inj there
      exact Json.yields_andThen fun _ _ _ => .ok holds
    · obtain ⟨part, listed, rfl⟩ := Option.map_eq_some_iff.1 there
      apply Json.yields_andThen
      intro rest after read
      exact .ok (Record.keeps_layout.put _ _ listed _ _ _ holds _ _ read)
  finish := by
    intro slots e holds done
    simp only [SeedEntry.layout] at done
    cases finished : (Record.layout (m := FromText)).finish
        { slots.rest with id := some "", dcat := some (slots.rest.dcat.getD (.obj [])) } with
    | error message =>
      rw [finished] at done
      cases done
    | ok r =>
      rw [finished] at done
      cases done
      apply Record.keeps_layout.finish _ _ _ finished
      rintro v ⟨⟩
      cases given : slots.rest.dcat with
      | none => rfl
      | some v => exact holds v given

theorem inOrder_of_parse {line : String} {e : SeedEntry} (read : SeedEntry.parse line = .ok e) :
    InOrder e.record.dcat :=
  (keeps_layout.record _ _).ended read

end SeedEntry

namespace Seed

theorem inOrder_of_parseLines {number : Nat} {lines : List String} {entries : List SeedEntry}
    (read : parseLines number lines = .ok entries) : ∀ e ∈ entries, InOrder e.record.dcat := by
  induction lines generalizing number entries with
  | nil =>
    cases read
    simp
  | cons line rest ih =>
    rw [parseLines] at read
    split at read
    · exact ih read
    · split at read
      · cases read
      · next e parsed =>
        cases later : parseLines (number + 1) rest with
        | error failure =>
          rw [later] at read
          cases read
        | ok more =>
          rw [later] at read
          cases read
          intro d mem
          rcases List.mem_cons.1 mem with rfl | mem
          · exact SeedEntry.inOrder_of_parse parsed
          · exact ih later d mem

/-- Metadata of a seed that the database can give back is given back as it was read. -/
theorem readable_of_parse {content : String} {entries : List SeedEntry}
    (read : parse content = .ok entries)
    (whole : ∀ e ∈ entries, Json.Whole Json.depthLimit e.record.dcat)
    (plain : ∀ e ∈ entries, e.record.dcat.Unembedded) :
    ∀ e ∈ entries, Json.parse e.record.dcat.print = .ok e.record.dcat := by
  intro e mem
  rw [Json.parse_print (whole e mem) (plain e mem), inOrder_of_parseLines read e mem]

end Seed

end CatalogSearch
