import CatalogSearch.Proofs.Store.Agreement

/-!
# Pages behind the end

A page that begins behind the last record is empty, in memory wherever it begins. The database reads
the number of rows to leave out with a sign: it shows nothing as long as that number fits into 63
bits, and begins again with the first row when it does not.
-/
namespace CatalogSearch.Store

/-- The rows that are joined are some of the datasets. -/
theorem Tables.length_joined_le (t : Tables) : t.joined.length ≤ t.datasets.length :=
  List.length_filterMap_le ..

theorem pageOffset_of_le {number size : Nat} (word : (number - 1) * size ≤ wordLimit) :
    pageOffset number size = (number - 1) * size := Nat.min_eq_left word

theorem pageOffset_le (number size : Nat) : pageOffset number size ≤ wordLimit :=
  Nat.min_le_right ..

namespace Tables

variable {t : Tables} {number size : Nat}

theorem answer_page_past_end (past : t.datasets.length ≤ (number - 1) * size)
    (small : (number - 1) * size < twoTo 63) : t.answer (.page number size) = .ok [] := by
  have limit := wordLimit_eq
  have joined : t.joined.length ≤ (number - 1) * size := t.length_joined_le.trans past
  rw [answer, pageOffset_of_le (by omega), window_past_end joined small]
  rfl

/-- Where the offset has no place in 63 bits, a page is the first page of its size. -/
theorem answer_page_wrapped (large : twoTo 63 ≤ (number - 1) * size) :
    t.answer (.page number size) = t.answer (.page 1 size) := by
  have limit := wordLimit_eq
  have offset : twoTo 63 ≤ pageOffset number size := by
    rw [pageOffset]
    omega
  have first : signed64 (pageOffset 1 size) = 0 := by
    rw [pageOffset_of_le (by simp), Nat.sub_self, Nat.zero_mul]
    rfl
  rw [answer, answer, window_wrapped offset (pageOffset_le number size), first]

end Tables

theorem Database.answer_migrate (db : Database) (call : Call) :
    db.migrate.answer call = (db.tables.getD {}).answer call := rfl

theorem Memory.answer_page_past_end {m : Memory} {number size : Nat}
    (fits : m.records.length ≤ wordLimit) (past : m.records.length ≤ (number - 1) * size) :
    m.answer (.page number size) = .ok [] := by
  have behind : m.all.length ≤ (number - 1) * size := by rw [length_all]; exact past
  rw [answer_page fits, pages, List.drop_eq_nil_of_le behind, List.take_nil]

/-- A page of a migrated database that begins behind the last record is empty if fewer than 2 ^ 63
rows are left out before it; with more it is the first page of its size. A store in memory of as
many records shows an empty page in both cases. The count of the records is a machine word. -/
theorem page_past_end (db : Database) (number size : Nat) {count : Nat}
    (counted : db.migrate.answer .countAll = .ok count) (word : count ≤ wordLimit)
    (past : count ≤ (number - 1) * size) :
    ((number - 1) * size < twoTo 63 → db.migrate.answer (.page number size) = .ok []) ∧
    (twoTo 63 ≤ (number - 1) * size →
      db.migrate.answer (.page number size) = db.migrate.answer (.page 1 size)) ∧
    ∀ m : Memory, m.answer .countAll = .ok count → m.answer (.page number size) = .ok [] := by
  have length : (db.tables.getD {}).datasets.length = count := Except.ok.inj counted
  refine ⟨fun small => ?_, fun large => ?_, fun m same => ?_⟩
  · exact Tables.answer_page_past_end (by rw [length]; exact past) small
  · exact Tables.answer_page_wrapped large
  · have records : m.records.length = count := Except.ok.inj same
    exact Memory.answer_page_past_end (by omega) (by omega)

/-- Behind two records and the largest page size that 63 bits hold, the second page is empty. -/
theorem page_past_end_last : ∃ db, Database.upsertAll pair (.migrate {}) = .ok db ∧
    db.migrate.answer .countAll = .ok 2 ∧ 2 ≤ wordLimit ∧ 2 ≤ (2 - 1) * (twoTo 63 - 1) ∧
    db.migrate.answer (.page 2 (twoTo 63 - 1)) = .ok [] ∧
    (Memory.insertAll pair {}).answer (.page 2 (twoTo 63 - 1)) = .ok [] := by
  refine ⟨_, rfl, rfl, by decide, by decide, ?_⟩
  generalize written : Database.mk _ = db
  have counted : db.migrate.answer .countAll = .ok 2 := by rw [← written]; rfl
  obtain ⟨empty, -, memory⟩ := page_past_end db 2 (twoTo 63 - 1) counted (by decide)
    (by decide)
  exact ⟨empty (by decide), memory _ rfl⟩

/-- Behind 2 ^ 63 pages of one record each, a database that holds one record shows it again. -/
theorem page_past_end_wraps :
    ∃ db, Database.upsertAll [ofOffice "a" "x" "N" (.obj [])] (.migrate {}) = .ok db ∧
      db.migrate.answer .countAll = .ok 1 ∧ 1 ≤ (twoTo 63 + 1 - 1) * 1 ∧
      db.migrate.answer (.page (twoTo 63 + 1) 1) = .ok [ofOffice "a" "x" "N" (.obj [])] ∧
      (Memory.insertAll [ofOffice "a" "x" "N" (.obj [])] {}).answer (.page (twoTo 63 + 1) 1) =
        .ok [] := by
  refine ⟨_, rfl, rfl, by decide, ?_, ?_⟩
  · rw [Database.answer_migrate, Tables.answer_page_wrapped (by decide)]
    rfl
  · exact Memory.answer_page_past_end (by decide) (by decide)

end CatalogSearch.Store
