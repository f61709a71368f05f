import CatalogSearch.Proofs.Index.Ranking
import CatalogSearch.Proofs.Query.Matching
import CatalogSearch.Proofs.Query.Words
import CatalogSearch.Proofs.Sync.Rebuild

/-!
# Records are found by their words

What a full sync writes of a record, a search for words of it finds, and a search shows nothing that
lacks a word: the words that the query asks for are the terms that documents are matched by,
whatever their script and case.
-/
namespace CatalogSearch

open Text

namespace Document

/-- A word of a document: a run of letters and numbers in one of its texts that cannot be made
longer. -/
def HasWord (d : Document) (word : String) : Prop :=
  ∃ text ∈ d.texts, MaximalRun isAlphanumeric word.toList text.toList

/-- A word of a document, perhaps in another case. -/
def HasWordInAnyCase (d : Document) (word : String) : Prop :=
  ∃ other, d.HasWord other ∧ lowercase other.toList = lowercase word.toList

variable {d : Document} {word : String}

theorem HasWord.inAnyCase (h : d.HasWord word) : d.HasWordInAnyCase word :=
  ⟨word, h, rfl⟩

/-- The tokens of the texts are the words in lower case. -/
theorem hasWordInAnyCase_iff :
    d.HasWordInAnyCase word ↔ ∃ text ∈ d.texts, lowercase word.toList ∈ tokens text := by
  constructor
  · rintro ⟨other, ⟨text, htext, run⟩, same⟩
    exact ⟨text, htext, same ▸ List.mem_map_of_mem run.mem_runs⟩
  · rintro ⟨text, htext, hword⟩
    obtain ⟨run, hrun, same⟩ := List.mem_map.1 hword
    refine ⟨String.ofList run, ⟨text, htext, ?_⟩, ?_⟩ <;> rw [String.toList_ofList]
    · exact mem_runs_iff.1 hrun
    · exact same

end Document

namespace Query

variable {d : Document} {words : List String}

/-- The words of a document are the terms that it is matched by. -/
theorem hasWordInAnyCase_iff_field {word : String} :
    d.HasWordInAnyCase word ↔
      ∃ field, ∃ value ∈ d.values field, lowercase word.toList ∈ tokens value := by
  rw [Document.hasWordInAnyCase_iff]
  simp only [← Document.exists_mem_values_iff]
  constructor
  · rintro ⟨text, ⟨field, hvalue⟩, hword⟩
    exact ⟨field, text, hvalue, hword⟩
  · rintro ⟨field, text, hvalue, hword⟩
    exact ⟨text, ⟨field, hvalue⟩, hword⟩

theorem plainWord_of_hasWord {word : String} (h : d.HasWord word)
    (notOr : isOr word.toList = false) : PlainWord word := by
  obtain ⟨text, -, run⟩ := h
  exact ⟨run.nonempty, run.kind, notOr⟩

/-- A document matches the query for some words if it has all of them. -/
theorem isSome_score_words_iff (some : words ≠ []) (plain : ∀ word ∈ words, PlainWord word) :
    ((compile (" ".intercalate words)).score d).isSome = true ↔
      ∀ word ∈ words, d.HasWordInAnyCase word := by
  rw [compile_words some plain, allWords, score, tokens_words plain]
  split
  · next none => exact absurd (List.map_eq_nil_iff.1 none) some
  · simp only [isSome_allTermsScore_iff, List.forall_mem_map, ← hasWordInAnyCase_iff_field]

end Query

namespace Sync

open Index (Client SortMode ranking)
open Rehearsal (Journal calm)

/-- Without filters, a page as large as the index shows the documents that the query matches. -/
theorem mem_items_iff {query : Query} {documents : List (String × Document)} {d : Document}
    (sort : SortMode) {size : Nat} (enough : documents.length ≤ size) :
    d ∈ ((ranking query {} sort (Keyed.values documents)).drop 0).take size ↔
      d ∈ Keyed.values documents ∧ (query.score d).isSome = true := by
  have perm := Index.ranking_perm query {} sort (Keyed.values documents)
  have short : (ranking query {} sort (Keyed.values documents)).length ≤ size := by
    have filtered := List.length_filter_le (Index.Wanted query {}) (Keyed.values documents)
    rw [← perm.length_eq, Keyed.values, List.length_map] at filtered
    exact filtered.trans enough
  have admitted : ({} : Index.Filters).Admits d :=
    ⟨fun _ h => (by cases h), fun h => absurd rfl h, fun _ h => (by cases h)⟩
  rw [List.drop_zero, List.take_of_length_le short, perm.mem_iff, List.mem_filter,
    decide_eq_true_eq, Index.Wanted, and_iff_right admitted]

/-- After a full sync without faults, every record that the index takes is found by its own words:
by any of them, in any number and order, under any order of the hits. Whatever is found beside it
has all of the words too. -/
theorem fullSync_findable (client : Client) (options : SyncOptions) {perPage : Nat}
    (recreateSchema : Bool) {store : Store.Memory} {index : Index.Memory} (journal : Journal)
    (hperPage : 1 ≤ perPage) (hstore : store.Sound)
    (fits : store.records.length ≤ Store.wordLimit) (sound : index.Sound) :
    ∃ report index' journal',
      (calm store index journal).run (fullSync client options 1 perPage recreateSchema) =
        (.ok report, calm store index' journal') ∧
      ∀ r ∈ store.all, index.takes Index.maxResubmissions r.id = true →
        ∀ words : List String, words ≠ [] →
          (∀ word ∈ words, (Document.ofRecord r).HasWord word ∧ Query.isOr word.toList = false) →
          ∀ (sort : SortMode) (size : Nat), index'.documents.length ≤ size →
            ∃ result journal'',
              (calm store index' journal').run (Client.searchPage
                  (Query.compile (" ".intercalate words)) {} sort size 0) =
                (.ok result, calm store index' journal'') ∧
              Document.ofRecord r ∈ result.items ∧
              ∀ d ∈ result.items, ∀ word ∈ words, d.HasWordInAnyCase word := by
  have ends : (fullSync client options 1 perPage recreateSchema).Ends (inMemory store False)
      ⟨index, journal.events⟩
      (fun report w => Synced False store 1 perPage ⟨index, journal.events⟩ report w ∧
        w.index.Sound) fun _ _ => False :=
    ((fullSync_ends client options 1 recreateSchema hperPage hstore fits sound).sound sound).mono
      (fun _ _ h => h) fun _ _ h => h.1
  obtain ⟨report, index', journal', hrun, synced, sound'⟩ := Rehearsal.run_calm ends
  refine ⟨report, index', journal', hrun, ?_⟩
  intro r hr taken words some own sort size enough
  have written : (r.id, Document.ofRecord r) ∈ index'.documents := by
    rw [synced.documents, synced.filter_not_refused not_false]
    apply List.mem_map_of_mem
    rw [List.mem_filter]
    refine ⟨?_, taken⟩
    simpa [Store.Memory.fromPage] using hr
  have present : index'.mapping.isSome = true := sound'.isSome_of_mem written
  have matched (d : Document) := Query.isSome_score_words_iff (d := d) some fun word hword =>
    Query.plainWord_of_hasWord (own word hword).1 (own word hword).2
  refine ⟨_, _, Index.run_searchPage _ {} sort store journal' present size 0, ?_, ?_⟩
  · rw [mem_items_iff sort enough, matched]
    exact ⟨List.mem_map_of_mem written, fun word hword => (own word hword).1.inAnyCase⟩
  · intro d shown
    rw [mem_items_iff sort enough, matched] at shown
    exact shown.2

/-- A record with words in its title and in a keyword. -/
def forests : Record :=
  { (default : Record) with
    id := "forests"
    dcat := .obj [("title", .str "Größe der Wälder"), ("keyword", .arr [.str "ÖPNV-Takt"])] }

/-- A record that has a word of its title in common with the other one. -/
def meadows : Record :=
  { (default : Record) with id := "meadows", dcat := .obj [("title", .str "Größe der Wiesen")] }

/-- The two records behind one without words. -/
def landscapes : Store.Memory := ((Store.Memory.ofIds ["a"]).insert forests).insert meadows

/-- An index that rejects the record without words and turns away another one three times. -/
def wordless : Index.Memory :=
  (({} : Index.Memory).reject "a" "mapper_parsing_exception" "bad field").throttle "forests" 3

/-- A word of the title and one of a keyword, in that order or not, find one record and not the
other, which is indexed as well: its own word finds it alone. -/
theorem fullSync_findable_forests :
    ∃ report index' journal',
      (calm landscapes wordless {}).run (fullSync {} {} 1 1 true) =
        (.ok report, calm landscapes index' journal') ∧
      ∀ sort,
        (∃ result journal'',
          (calm landscapes index' journal').run
              (Client.searchPage (Query.compile "Takt Größe") {} sort index'.documents.length 0) =
            (.ok result, calm landscapes index' journal'') ∧
          Document.ofRecord forests ∈ result.items ∧ Document.ofRecord meadows ∉ result.items) ∧
        ∃ result journal'',
          (calm landscapes index' journal').run
              (Client.searchPage (Query.compile "Wiesen") {} sort index'.documents.length 0) =
            (.ok result, calm landscapes index' journal'') ∧
          Document.ofRecord meadows ∈ result.items ∧ Document.ofRecord forests ∉ result.items := by
  have sound : wordless.Sound := (Index.Memory.sound_initial.reject _ _ _).throttle _ _
  have hstore : landscapes.Sound :=
    ((Store.Memory.sound_ofIds ["a"]).insert forests).insert meadows
  obtain ⟨report, index', journal', hrun, found⟩ :=
    fullSync_findable {} {} true {} (le_refl 1) hstore (by decide +kernel) sound
  refine ⟨report, index', journal', hrun, fun sort => ⟨?_, ?_⟩⟩
  · have placed : Keyed.find? forests.id landscapes.records = some forests :=
      (Keyed.find?_insert_of_ne (by decide) meadows _).trans
        (Keyed.find?_insert_self forests.id forests _)
    have takt : (Document.ofRecord forests).HasWord "Takt" :=
      ⟨"ÖPNV-Takt", by decide, mem_runs_iff.1 (by decide +kernel)⟩
    have size : (Document.ofRecord forests).HasWord "Größe" :=
      ⟨"Größe der Wälder", by decide, mem_runs_iff.1 (by decide +kernel)⟩
    obtain ⟨result, journal'', ran, shown, others⟩ :=
      found forests (List.mem_map_of_mem (Keyed.mem_of_find? placed)) (by decide +kernel)
        ["Takt", "Größe"] (by decide)
        (by simpa [takt, size] using ⟨by decide, by decide⟩) sort _ (le_refl _)
    refine ⟨result, journal'', ran, shown, fun other => ?_⟩
    have takt' := Document.hasWordInAnyCase_iff.1 (others _ other "Takt" (.head _))
    exact absurd takt' (by decide +kernel)
  · have placed : Keyed.find? meadows.id landscapes.records = some meadows :=
      Keyed.find?_insert_self meadows.id meadows _
    have wiesen : (Document.ofRecord meadows).HasWord "Wiesen" :=
      ⟨"Größe der Wiesen", by decide, mem_runs_iff.1 (by decide +kernel)⟩
    obtain ⟨result, journal'', ran, shown, others⟩ :=
      found meadows (List.mem_map_of_mem (Keyed.mem_of_find? placed)) (by decide +kernel)
        ["Wiesen"] (by decide) (by simpa [wiesen] using by decide) sort _ (le_refl _)
    refine ⟨result, journal'', ran, shown, fun other => ?_⟩
    have wiesen' := Document.hasWordInAnyCase_iff.1 (others _ other "Wiesen" (.head _))
    exact absurd wiesen' (by decide +kernel)

end Sync

end CatalogSearch
