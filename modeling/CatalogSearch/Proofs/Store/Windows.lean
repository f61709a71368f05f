import CatalogSearch.Store.Tables

/-!
# Windows of rows

The limit and the offset of a query are numbers of 64 bits that the database reads with a sign.
Below half of their range they mean what they say. From there on they are negative: such a limit
takes all rows, and such an offset leaves out none.
-/
namespace CatalogSearch.Store.Tables

theorem wordLimit_eq : wordLimit + 1 = twoTo 63 + twoTo 63 := by decide

theorem signed64_of_lt {n : Nat} (small : n < twoTo 63) : signed64 n = n := if_pos small

theorem signed64_neg {n : Nat} (large : twoTo 63 ≤ n) (word : n ≤ wordLimit) : signed64 n < 0 := by
  have limit := wordLimit_eq
  have whole : twoTo 64 = twoTo 63 + twoTo 63 := by decide
  rw [signed64, if_neg (by omega)]
  omega

variable {α : Type}

/-- As much of the rows as a page shows: a size that has no place in 63 bits shows them all. -/
theorem window_eq {rows : List α} {size offset : Nat} (word : size ≤ wordLimit)
    (few : rows.length < twoTo 63) (begins : offset ≤ rows.length) :
    window (signed64 size) (signed64 offset) rows = (rows.drop offset).take size := by
  have place : (signed64 offset).toNat = offset := by
    rw [signed64_of_lt (by omega), Int.toNat_natCast]
  rw [window, place]
  by_cases small : size < twoTo 63
  · rw [signed64_of_lt small, if_neg (by omega), Int.toNat_natCast]
  · rw [if_pos (signed64_neg (by omega) word), List.take_of_length_le]
    rw [List.length_drop]
    omega

/-- Behind the last row there is none, as long as the offset means what it says. -/
theorem window_past_end {rows : List α} {offset : Nat} (past : rows.length ≤ offset)
    (small : offset < twoTo 63) (limit : Int) : window limit (signed64 offset) rows = [] := by
  have none : rows.drop (signed64 offset).toNat = [] := by
    rw [signed64_of_lt small, Int.toNat_natCast, List.drop_eq_nil_of_le past]
  rw [window, none, List.take_nil, ite_self]

/-- An offset that has no place in 63 bits leaves out nothing. -/
theorem window_wrapped {offset : Nat} (large : twoTo 63 ≤ offset) (word : offset ≤ wordLimit)
    (limit : Int) (rows : List α) :
    window limit (signed64 offset) rows = window limit 0 rows := by
  have negative := signed64_neg large word
  rw [window, window, Int.toNat_of_nonpos (by omega)]
  rfl

end CatalogSearch.Store.Tables
