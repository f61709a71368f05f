import CatalogSearch.Time.Span
import Mathlib.Algebra.Order.Field.Rat
import Mathlib.Tactic.Linarith

/-!
# Seconds as spans

A double is worth an exact fraction. A number of seconds that is finite and not negative is a span
just if it is below two to the 64, and the span is then at most half a nanosecond off. A span times
over is cut at the same limit.
-/
namespace CatalogSearch

namespace Double

def value (x : Double) : ℚ :=
  let magnitude : ℚ := x.fraction.1 / x.fraction.2
  if x.isNegative then -magnitude else magnitude

theorem twoTo_pos (n : Nat) : 0 < twoTo n := Nat.two_pow_pos n

theorem significand_lt (x : Double) : x.significand < twoTo 53 := by
  have fraction : x.magnitudeBits % fractionLimit < fractionLimit := Nat.mod_lt _ (by decide)
  have limit : twoTo 53 = fractionLimit + fractionLimit := by decide
  dsimp only [significand]
  split <;> omega

theorem significand_eq_zero_iff (x : Double) : x.significand = 0 ↔ x.isZero = true := by
  have positive : 0 < fractionLimit := by decide
  rw [isZero, beq_iff_eq]
  dsimp only [significand]
  split <;> omega

theorem fraction_snd_pos (x : Double) : 0 < x.fraction.2 := by
  unfold fraction
  split
  · exact Nat.one_pos
  · exact twoTo_pos _

theorem fraction_fst_eq_zero_iff (x : Double) : x.fraction.1 = 0 ↔ x.isZero = true := by
  rw [← significand_eq_zero_iff]
  unfold fraction
  split
  · exact Nat.mul_eq_zero.trans (or_iff_left (twoTo_pos _).ne')
  · rfl

/-- A number is a whole one unless it is below two to the 53. -/
theorem fraction_cases (x : Double) : x.fraction.2 = 1 ∨ x.fraction.1 < twoTo 53 := by
  unfold fraction
  split
  · exact .inl rfl
  · exact .inr x.significand_lt

/-- Only the sign of a number other than zero makes it negative. -/
theorem value_nonneg_iff (x : Double) : 0 ≤ x.value ↔ x.isZero = true ∨ x.isNegative = false := by
  have den : (0 : ℚ) < x.fraction.2 := by exact_mod_cast x.fraction_snd_pos
  rw [← fraction_fst_eq_zero_iff]
  dsimp only [value]
  cases x.isNegative with
  | false => simpa using div_nonneg (Nat.cast_nonneg x.fraction.1) den.le
  | true =>
    have small : 0 ≤ -((x.fraction.1 : ℚ) / x.fraction.2) ↔ (x.fraction.1 : ℚ) ≤ 0 := by
      rw [neg_nonneg, div_le_iff₀ den, zero_mul]
    rw [if_pos rfl, small]
    simp

theorem value_of_nonneg {x : Double} (nonneg : 0 ≤ x.value) :
    x.value = (x.fraction.1 : ℚ) / x.fraction.2 := by
  rcases (value_nonneg_iff x).1 nonneg with zero | positive
  · simp [value, (fraction_fst_eq_zero_iff x).2 zero]
  · simp [value, positive]

theorem value_lt_iff {x : Double} (nonneg : 0 ≤ x.value) (n : Nat) :
    x.value < n ↔ x.fraction.1 < n * x.fraction.2 := by
  have den : (0 : ℚ) < x.fraction.2 := by exact_mod_cast x.fraction_snd_pos
  rw [value_of_nonneg nonneg, div_lt_iff₀ den]
  exact_mod_cast Iff.rfl

theorem roundDiv_one (n : Nat) : roundDiv n 1 = n := by
  simp [roundDiv, Nat.mod_one]

theorem roundDiv_bounds (num : Nat) {den : Nat} (positive : 0 < den) :
    2 * (den * roundDiv num den) ≤ 2 * num + den ∧
      2 * num ≤ 2 * (den * roundDiv num den) + den := by
  have division : den * (num / den) + num % den = num := Nat.div_add_mod num den
  have next : den * (num / den + 1) = den * (num / den) + den := Nat.mul_add_one _ _
  have rest := Nat.mod_lt num positive
  dsimp only [roundDiv]
  split
  · omega
  · split
    · rw [next]
      omega
    · rcases Nat.mod_two_eq_zero_or_one (num / den) with even | odd
      · rw [even, Nat.add_zero]
        omega
      · rw [odd, next]
        omega

/-- A rounded quotient is at most a half off. -/
theorem roundDiv_nearest (num : Nat) {den : Nat} (positive : 0 < den) :
    |(roundDiv num den : ℚ) - num / den| ≤ 1 / 2 := by
  obtain ⟨upper, lower⟩ := roundDiv_bounds num positive
  have upper : 2 * ((den : ℚ) * roundDiv num den) ≤ 2 * num + den := by exact_mod_cast upper
  have lower : 2 * (num : ℚ) ≤ 2 * (den * roundDiv num den) + den := by exact_mod_cast lower
  have den_pos : (0 : ℚ) < den := by exact_mod_cast positive
  rw [abs_le]
  constructor
  · rw [neg_le_sub_iff_le_add, div_le_iff₀ den_pos]
    linarith
  · rw [sub_le_iff_le_add, ← sub_le_iff_le_add', le_div_iff₀ den_pos]
    linarith

theorem roundDiv_le (num : Nat) {den : Nat} (positive : 0 < den) : roundDiv num den ≤ num := by
  obtain ⟨upper, -⟩ := roundDiv_bounds num positive
  have scaled : den * (2 * roundDiv num den) ≤ den * (2 * num + 1) := by
    have enough : 2 * num ≤ den * (2 * num) := Nat.le_mul_of_pos_left _ positive
    rw [Nat.mul_left_comm, Nat.mul_add_one]
    omega
  have bound := Nat.le_of_mul_le_mul_left scaled positive
  omega

end Double

namespace Span

theorem nanos_longest : longest.nanos = 2 ^ 64 * 10 ^ 9 - 1 := rfl

theorem nanos_scale (s : Span) (n : Nat) :
    (s.scale n).nanos = min (s.nanos * n) (2 ^ 64 * 10 ^ 9 - 1) := rfl

/-- A number of seconds rounds to a span just if it is below two to the 64. -/
theorem roundDiv_le_longest_iff {x : Double} (nonneg : 0 ≤ x.value) :
    Double.roundDiv (x.fraction.1 * nanosPerSecond) x.fraction.2 ≤ longest.nanos ↔
      x.value < 2 ^ 64 := by
  have limit : x.value < 2 ^ 64 ↔ x.fraction.1 < 2 ^ 64 * x.fraction.2 := by
    exact_mod_cast Double.value_lt_iff nonneg (2 ^ 64)
  have den := x.fraction_snd_pos
  rw [limit, nanos_longest, nanosPerSecond]
  rcases x.fraction_cases with whole | small
  · rw [whole, Double.roundDiv_one]
    omega
  · -- Far below the limit, both sides hold.
    have bound := Double.roundDiv_le (x.fraction.1 * 1000000000) den
    have power : twoTo 53 = 2 ^ 53 := rfl
    exact iff_of_true (by omega) (by omega)

variable {x : Double}

theorem ofDouble?_eq (finite : x.isFinite = true) : ofDouble? x =
    if Double.roundDiv (x.fraction.1 * nanosPerSecond) x.fraction.2 ≤ longest.nanos then
      some ⟨Double.roundDiv (x.fraction.1 * nanosPerSecond) x.fraction.2⟩ else none := by
  simp [ofDouble?, finite]

theorem ofDouble?_eq_none_iff (finite : x.isFinite = true) (nonneg : 0 ≤ x.value) :
    ofDouble? x = none ↔ 2 ^ 64 ≤ x.value := by
  have rounds := roundDiv_le_longest_iff nonneg
  rw [ofDouble?_eq finite]
  split
  · next fits => exact iff_of_false nofun (not_le.2 (rounds.1 fits))
  · next long => exact iff_of_true rfl (not_lt.1 fun short => long (rounds.2 short))

theorem exists_ofDouble? (finite : x.isFinite = true) (nonneg : 0 ≤ x.value)
    (short : x.value < 2 ^ 64) : ∃ s, ofDouble? x = some s :=
  Option.ne_none_iff_exists'.1 fun long =>
    short.not_ge ((ofDouble?_eq_none_iff finite nonneg).1 long)

/-- The span is as long as a number of seconds, to the nearest nanosecond. -/
def Nearest (s : Span) (seconds : ℚ) : Prop :=
  |(s.nanos : ℚ) - seconds * 10 ^ 9| ≤ 1 / 2

theorem nearest_of_ofDouble? (finite : x.isFinite = true) (nonneg : 0 ≤ x.value) {s : Span}
    (span : ofDouble? x = some s) : s.Nearest x.value ∧ s.nanos ≤ longest.nanos := by
  rw [ofDouble?_eq finite, Option.ite_none_right_eq_some] at span
  obtain ⟨fits, span⟩ := span
  obtain rfl := Option.some.inj span
  refine ⟨?_, fits⟩
  have rounded := Double.roundDiv_nearest (x.fraction.1 * nanosPerSecond) x.fraction_snd_pos
  have scaled : x.value * 10 ^ 9 = ((x.fraction.1 * nanosPerSecond : Nat) : ℚ) / x.fraction.2 := by
    rw [Double.value_of_nonneg nonneg, div_mul_eq_mul_div, nanosPerSecond]
    norm_num
  rwa [Nearest, scaled]

end Span

end CatalogSearch
