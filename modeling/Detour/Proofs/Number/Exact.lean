import Detour.Number.Binary64
import Mathlib.Algebra.Order.Field.Power
import Mathlib.Algebra.Order.Field.Rat
import Mathlib.Data.Nat.Cast.Order.Field
import Mathlib.Tactic.FieldSimp
import Mathlib.Tactic.NormNum
import Mathlib.Tactic.Ring

/-!
# Exact arithmetic

The number that a floating-point number stands for (`Binary64.value`), and what of it is a whole
number. A result that has 53 binary digits at most is not changed by rounding
(`exists_roundQuotient_of_representable`); so products and quotients with such a result are exact.
-/

namespace Detour.Binary64

/-! ## Values -/

/-- The number without its sign. -/
def magnitude (x : Binary64) : ℚ := x.mantissa * 2 ^ x.exponent

/-- The number that a floating-point number stands for. -/
def value (x : Binary64) : ℚ := if x.negative then -x.magnitude else x.magnitude

variable {x y : Binary64}

theorem magnitude_nonneg (x : Binary64) : 0 ≤ x.magnitude := by
  unfold magnitude; positivity

theorem magnitude_eq_zero_iff : x.magnitude = 0 ↔ x.mantissa = 0 := by
  have htwo : (2 : ℚ) ^ x.exponent ≠ 0 := zpow_ne_zero _ two_ne_zero
  rw [magnitude, mul_eq_zero, or_iff_left htwo, Nat.cast_eq_zero]

theorem value_eq_zero_iff : x.value = 0 ↔ x.mantissa = 0 := by
  rw [← magnitude_eq_zero_iff, value]
  split
  · exact neg_eq_zero
  · exact Iff.rfl

/-! ## Quotients -/

variable {num den : ℕ}

theorem scale_pos (h : 0 < den) (e : ℤ) : 0 < (scale num den e).2 := by
  cases e with
  | ofNat n => exact h
  | negSucc n => exact Nat.mul_pos h (Nat.pow_pos Nat.two_pos)

theorem scale_ratio (num den : ℕ) (e : ℤ) :
    ((scale num den e).1 : ℚ) / (scale num den e).2 = num / den * 2 ^ e := by
  cases e with
  | ofNat n =>
    show ((num * 2 ^ n : ℕ) : ℚ) / den = num / den * 2 ^ (n : ℤ)
    rw [zpow_natCast, Nat.cast_mul, Nat.cast_pow, Nat.cast_ofNat]
    ring
  | negSucc n =>
    show (num : ℚ) / (den * 2 ^ (n + 1) : ℕ) = num / den * 2 ^ Int.negSucc n
    rw [zpow_negSucc, Nat.cast_mul, Nat.cast_pow, Nat.cast_ofNat, div_mul_eq_div_div,
      div_eq_mul_inv]

theorem quotient_ratio (x : Binary64) : (x.quotient.1 : ℚ) / x.quotient.2 = x.magnitude := by
  rw [quotient, scale_ratio, Nat.cast_one, div_one, magnitude]

theorem quotient_pos (x : Binary64) : 0 < x.quotient.2 := scale_pos Nat.one_pos _

/-! ## Whole numbers -/

/-- A quotient is a whole number just if the division leaves nothing. -/
theorem div_eq_natCast_iff (hden : 0 < den) {n : ℕ} :
    (num : ℚ) / den = n ↔ num % den = 0 ∧ num / den = n := by
  have hne : (den : ℚ) ≠ 0 := Nat.cast_ne_zero.mpr hden.ne'
  rw [div_eq_iff hne, ← Nat.cast_mul, Nat.cast_inj]
  constructor
  · rintro rfl
    exact ⟨Nat.mul_mod_left n den, Nat.mul_div_left n hden⟩
  · rintro ⟨hmod, rfl⟩
    exact (Nat.div_mul_cancel (Nat.dvd_of_mod_eq_zero hmod)).symm

/-- The whole number that a number has is the one that it equals. -/
theorem toNat?_eq_some_iff {n : ℕ} : x.toNat? = some n ↔ x.value = n := by
  unfold toNat? isZero
  dsimp only
  by_cases hzero : x.mantissa = 0
  · rw [if_pos (decide_eq_true hzero), value_eq_zero_iff.mpr hzero, Option.some_inj]
    norm_cast
  · rw [if_neg (by simpa using hzero)]
    have hpos : 0 < x.magnitude :=
      lt_of_le_of_ne x.magnitude_nonneg (Ne.symm (mt magnitude_eq_zero_iff.mp hzero))
    cases hneg : x.negative with
    | true =>
      have hvalue : x.value < 0 := by
        rw [value, if_pos hneg]
        exact neg_neg_of_pos hpos
      refine ⟨nofun, fun h => absurd h (ne_of_lt (hvalue.trans_le (Nat.cast_nonneg n)))⟩
    | false =>
      have hvalue : x.value = x.magnitude := if_neg (by rw [hneg]; exact Bool.false_ne_true)
      rw [hvalue, ← quotient_ratio, div_eq_natCast_iff x.quotient_pos, Bool.false_or]
      by_cases hmod : x.quotient.1 % x.quotient.2 = 0
      · rw [if_neg (by simpa using hmod), Option.some_inj]
        exact (and_iff_right hmod).symm
      · rw [if_pos (by simpa using hmod)]
        exact ⟨nofun, fun h => absurd h.1 hmod⟩

/-! ## Rounding what needs none -/

/-- The number has at most 53 binary digits, none of them too small or too large. -/
def Representable (q : ℚ) : Prop :=
  ∃ (m : ℕ) (e : ℤ), m < 2 * leastNormal ∧ minExponent ≤ e ∧ e < maxExponent ∧ q = m * 2 ^ e

theorem representable_natCast {n : ℕ} (h : n < 2 * leastNormal) : Representable n :=
  ⟨n, 0, h, by decide, by decide, by rw [zpow_zero, mul_one]⟩

theorem representable_mul_pow_ten {n j : ℕ} (h : n * 5 ^ j < 2 * leastNormal) (hj : j < 971) :
    Representable (n * 10 ^ j) := by
  refine ⟨n * 5 ^ j, j, h, (by decide : minExponent ≤ 0).trans (Int.natCast_nonneg j),
    Int.ofNat_lt.mpr hj, ?_⟩
  rw [zpow_natCast, Nat.cast_mul, Nat.cast_pow, mul_assoc, Nat.cast_ofNat, ← mul_pow]
  norm_num

theorem roundDiv_of_mod_eq_zero (hden : 0 < den) (h : num % den = 0) :
    roundDiv num den = num / den := by
  unfold roundDiv
  rw [h]
  exact if_pos hden

/-- A quotient of given size, by the sizes of its parts. -/
theorem zpow_log2_lt_div (hnum : 0 < num) (hden : 0 < den) :
    (2 : ℚ) ^ ((num.log2 : ℤ) - den.log2 - 1) < num / den := by
  have hn : (2 : ℚ) ^ (num.log2 : ℤ) ≤ num := by
    exact_mod_cast Nat.log2_self_le hnum.ne'
  have hd : (den : ℚ) < 2 ^ ((den.log2 : ℤ) + 1) := by
    exact_mod_cast Nat.lt_log2_self
  rw [show (num.log2 : ℤ) - den.log2 - 1 = num.log2 - (den.log2 + 1) by ring,
    zpow_sub₀ two_ne_zero]
  exact div_lt_div₀' hn hd (by positivity) (by positivity)

/-- The exponent that is chosen leaves room for every digit. -/
theorem exponentFor_le (hnum : 0 < num) (hden : 0 < den) {m : ℕ} {e : ℤ}
    (hm : m < 2 * leastNormal) (he : minExponent ≤ e) (hq : (num : ℚ) / den = m * 2 ^ e) :
    exponentFor num den ≤ e := by
  have hm' : (m : ℚ) < 2 ^ (53 : ℤ) := by exact_mod_cast hm
  have hupper : (num : ℚ) / den < 2 ^ (53 + e) := by
    rw [hq, zpow_add₀ two_ne_zero]
    exact mul_lt_mul_of_pos_right hm' (by positivity)
  have hlower := zpow_log2_lt_div hnum hden
  unfold exponentFor
  dsimp only
  refine max_le he ?_
  split
  · have hsize := (zpow_lt_zpow_iff_right₀ one_lt_two).mp (hlower.trans hupper)
    omega
  · rename_i hlarge
    have hfloor : (2 : ℚ) ^ (53 : ℤ) ≤ num / den * 2 ^ (-((num.log2 : ℤ) - den.log2 - 53)) := by
      rw [← scale_ratio]
      refine le_trans ?_ Nat.cast_div_le
      exact_mod_cast Nat.le_of_not_lt hlarge
    have hlarge' := hfloor.trans_lt (mul_lt_mul_of_pos_right hupper (by positivity))
    rw [← zpow_add₀ two_ne_zero] at hlarge'
    have hsize := (zpow_lt_zpow_iff_right₀ one_lt_two).mp hlarge'
    omega

/-- With a smaller exponent the digits are a whole number, so that nothing is rounded away. -/
theorem roundDiv_scale_mul (hden : 0 < den) {m : ℕ} {e e' : ℤ} (hle : e' ≤ e)
    (hq : (num : ℚ) / den = m * 2 ^ e) :
    (roundDiv (scale num den (-e')).1 (scale num den (-e')).2 : ℚ) * 2 ^ e' = num / den := by
  have hdpos : 0 < (scale num den (-e')).2 := scale_pos hden _
  have hwhole : ((scale num den (-e')).1 : ℚ) / (scale num den (-e')).2 =
      (m * 2 ^ (e - e').toNat : ℕ) := by
    rw [scale_ratio, hq, mul_assoc, ← zpow_add₀ two_ne_zero, Nat.cast_mul, Nat.cast_pow,
      Nat.cast_ofNat, ← zpow_natCast, Int.toNat_of_nonneg (by omega), ← sub_eq_add_neg]
  obtain ⟨hmod, hdiv⟩ := (div_eq_natCast_iff hdpos).mp hwhole
  rw [roundDiv_of_mod_eq_zero hdpos hmod, hdiv, ← hwhole, scale_ratio, mul_assoc,
    ← zpow_add₀ two_ne_zero, neg_add_cancel, zpow_zero, mul_one]

/-- **Exact results.** A quotient that can be represented is rounded to itself. -/
theorem exists_roundQuotient_of_representable (negative : Bool) (hden : 0 < den)
    (h : Representable (num / den)) :
    ∃ x, roundQuotient negative num den = some x ∧ x.magnitude = num / den := by
  obtain rfl | hnum := Nat.eq_zero_or_pos num
  · refine ⟨zero negative, if_pos rfl, ?_⟩
    rw [magnitude_eq_zero_iff.mpr rfl, Nat.cast_zero, zero_div]
  · obtain ⟨m, e, hm, hlow, hhigh, hq⟩ := h
    have hle := exponentFor_le hnum hden hm hlow hq
    have hvalue := roundDiv_scale_mul hden hle hq
    unfold roundQuotient
    rw [if_neg hnum.ne']
    dsimp only
    split
    · rename_i hcarry
      rw [if_neg (by dsimp only; omega)]
      refine ⟨_, rfl, ?_⟩
      rw [← hvalue, hcarry, magnitude, zpow_add₀ two_ne_zero]
      push_cast
      ring
    · rw [if_neg (by dsimp only; omega)]
      exact ⟨_, rfl, hvalue⟩

theorem exists_ofNat_of_representable {n : ℕ} (h : Representable n) :
    ∃ x, ofNat n = some x ∧ x.magnitude = n := by
  rw [← div_one (n : ℚ), ← Nat.cast_one] at h ⊢
  exact exists_roundQuotient_of_representable false Nat.one_pos h

/-- A product is exact if it can be represented. -/
theorem exists_mul_of_representable (h : Representable (x.magnitude * y.magnitude)) :
    ∃ z, x.mul y = some z ∧ z.magnitude = x.magnitude * y.magnitude := by
  have hratio : ((x.quotient.1 * y.quotient.1 : ℕ) : ℚ) / (x.quotient.2 * y.quotient.2 : ℕ) =
      x.magnitude * y.magnitude := by
    rw [Nat.cast_mul, Nat.cast_mul, mul_div_mul_comm, quotient_ratio, quotient_ratio]
  rw [← hratio] at h ⊢
  exact exists_roundQuotient_of_representable _ (Nat.mul_pos x.quotient_pos y.quotient_pos) h

/-- A quotient is exact if it can be represented. -/
theorem exists_div_of_representable (hy : y.magnitude ≠ 0)
    (h : Representable (x.magnitude / y.magnitude)) :
    ∃ z, x.div y = some z ∧ z.magnitude = x.magnitude / y.magnitude := by
  have hne : y.quotient.1 ≠ 0 := by
    intro hzero
    rw [← quotient_ratio, hzero, Nat.cast_zero, zero_div] at hy
    exact hy rfl
  have hratio : ((x.quotient.1 * y.quotient.2 : ℕ) : ℚ) / (x.quotient.2 * y.quotient.1 : ℕ) =
      x.magnitude / y.magnitude := by
    rw [Nat.cast_mul, Nat.cast_mul, mul_div_mul_comm, ← quotient_ratio x, ← quotient_ratio y,
      div_div_eq_mul_div, mul_div_assoc]
  unfold div
  dsimp only
  rw [if_neg hne]
  rw [← hratio] at h ⊢
  exact exists_roundQuotient_of_representable _
    (Nat.mul_pos x.quotient_pos (Nat.pos_of_ne_zero hne)) h

end Detour.Binary64
