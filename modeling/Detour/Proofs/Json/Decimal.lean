import Detour.Proofs.Json.RoundTrip
import Detour.Proofs.Number.Exact
import Mathlib.Data.List.Induction
import Mathlib.Tactic.IntervalCases

/-!
# Whole numbers, however they are written

The number that a number's text writes, with its point and exponent (`NumberText.value`), and the
one that a JSON value is (`Json.IsNumber`). Reading rounds twice, but a whole number below 1000 is
read as what it is, however it is written (`exists_ofText_of_value`).
-/

namespace Detour

/-- The value is a number and equals the given one. -/
def Json.IsNumber (q : ℚ) : Json → Prop
  | .int n => n = q
  | .float x => x.value = q
  | _ => False

theorem Json.isNumber_int_iff {z : ℤ} {n : ℕ} : (Json.int z).IsNumber n ↔ z = n := by
  unfold IsNumber; exact_mod_cast Iff.rfl

/-! ## Digits -/

theorem digitsValue_append (base : ℕ) (front rest : List Char) :
    digitsValue base (front ++ rest) =
      digitsValue base front * base ^ rest.length + digitsValue base rest := by
  induction rest using List.reverseRecOn with
  | nil => rw [List.append_nil]; simp [digitsValue]
  | append_singleton rest c ih =>
    rw [← List.append_assoc, digitsValue_concat, ih, digitsValue_concat, List.length_append]
    simp only [List.length_cons, List.length_nil]
    ring

theorem digitValue?_getD_lt (c : Char) : (digitValue? 10 c).getD 0 < 10 := by
  unfold digitValue?
  dsimp only
  generalize (if '0' ≤ c ∧ c ≤ '9' then c.toNat - '0'.toNat
    else if 'a' ≤ c ∧ c ≤ 'f' then c.toNat - 'a'.toNat + 10
    else if 'A' ≤ c ∧ c ≤ 'F' then c.toNat - 'A'.toNat + 10 else 10) = v
  split
  · assumption
  · exact Nat.succ_pos 9

theorem digitsValue_lt_pow (cs : List Char) : digitsValue 10 cs < 10 ^ cs.length := by
  induction cs using List.reverseRecOn with
  | nil => exact Nat.one_pos
  | append_singleton cs c ih =>
    have hdigit := digitValue?_getD_lt c
    rw [digitsValue_concat, List.length_append, List.length_singleton, pow_succ]
    omega

namespace JsonText

/-! ## What a number's text writes -/

/-- The power of ten that the exponent writes. -/
def NumberText.power (t : NumberText) : ℤ :=
  match t.exponent with
  | none => 0
  | some (below, digits) => if below then -digitsValue 10 digits else digitsValue 10 digits

/-- All digits before the exponent. -/
def NumberText.digits (t : NumberText) : List Char := t.whole ++ t.fraction.getD []

/-- The number that the text writes. -/
def NumberText.value (t : NumberText) : ℚ :=
  (if t.negative then -1 else 1) * digitsValue 10 t.digits *
    10 ^ (t.power - (t.fraction.getD []).length)

/-! ## Significands -/

/-- Behind the first three digits, not counting zeros in front, there are only zeros. -/
def IsShort (cs : List Char) : Prop :=
  ∀ front, front <+: cs → 1000 ≤ digitsValue 10 front → 10 ∣ digitsValue 10 front

variable {s : Significand} {cs ds : List Char} {c : Char} {k : ℕ} {e : ℤ}

theorem isShort_of_value (hk : k < 1000) (h : (digitsValue 10 cs : ℚ) * 10 ^ e = k) :
    IsShort cs := by
  rintro front ⟨rest, rfl⟩ hfront
  rw [digitsValue_append] at h
  have hten (n : ℕ) : 0 < 10 ^ n := Nat.pow_pos (by decide)
  cases e with
  | ofNat n =>
    rw [Int.ofNat_eq_natCast, zpow_natCast] at h
    have hvalue : (digitsValue 10 front * 10 ^ rest.length + digitsValue 10 rest) * 10 ^ n = k := by
      exact_mod_cast h
    have hle := Nat.le_mul_of_pos_right (digitsValue 10 front) (hten rest.length)
    have hle' := Nat.le_mul_of_pos_right
      (digitsValue 10 front * 10 ^ rest.length + digitsValue 10 rest) (hten n)
    omega
  | negSucc n =>
    have hvalue : digitsValue 10 front * 10 ^ rest.length + digitsValue 10 rest =
        k * 10 ^ (n + 1) := by
      rw [zpow_negSucc, ← div_eq_mul_inv, div_eq_iff (by positivity)] at h
      exact_mod_cast h
    obtain hlength | hlength := Nat.lt_or_ge n rest.length
    · have hpow : k * 10 ^ (n + 1) ≤ k * 10 ^ rest.length :=
        Nat.mul_le_mul_left k (Nat.pow_le_pow_right (by decide) hlength)
      have hle : digitsValue 10 front ≤ k :=
        Nat.le_of_mul_le_mul_right (by omega) (hten rest.length)
      omega
    · have hsplit : k * 10 ^ (n + 1) = 10 ^ rest.length * (10 * (k * 10 ^ (n - rest.length))) := by
        rw [show n + 1 = rest.length + (n - rest.length) + 1 by omega, pow_add, pow_add]
        ring
      have hdiv : (digitsValue 10 front * 10 ^ rest.length + digitsValue 10 rest) /
          10 ^ rest.length = digitsValue 10 front := by
        rw [Nat.mul_comm, Nat.mul_add_div (hten _), Nat.div_eq_of_lt (digitsValue_lt_pow rest),
          Nat.add_zero]
      rw [← hdiv, hvalue, hsplit, Nat.mul_div_cancel_left _ (hten _)]
      exact Nat.dvd_mul_right 10 _

/-- The significand has taken in the digits and lost none but zeros. -/
structure Significand.Holds (s : Significand) (cs : List Char) : Prop where
  value : s.value * 10 ^ s.dropped = digitsValue 10 cs
  fits : s.value ≤ maxSignificand
  large : s.full = true ∨ 0 < s.dropped → 1000 ≤ digitsValue 10 cs

theorem Significand.Holds.push (h : s.Holds cs) (hshort : IsShort (cs ++ [c])) :
    (s.push c).Holds (cs ++ [c]) := by
  obtain ⟨hvalue, hfits, hlarge⟩ := h
  have hdigit := digitValue?_getD_lt c
  have hconcat := digitsValue_concat 10 cs c
  have hzero := hshort _ (List.prefix_refl _)
  have hle : s.value ≤ digitsValue 10 cs :=
    hvalue ▸ Nat.le_mul_of_pos_right _ (Nat.pow_pos (Nat.succ_pos 9))
  have hmax : maxSignificand = 18446744073709551615 := rfl
  unfold Significand.push
  dsimp only
  generalize (digitValue? 10 c).getD 0 = d at hdigit hconcat ⊢
  rw [hconcat] at hzero
  -- a digit that is left out, or that follows on one that was, is a zero
  have hlate : (s.full = true ∨ 0 < s.dropped) ∨ maxSignificand < s.value * 10 + d →
      d = 0 ∧ 1000 ≤ digitsValue 10 cs * 10 + d := by
    intro hor
    have hbig : 1000 ≤ digitsValue 10 cs * 10 + d := by
      obtain hor | hover := hor
      · have := hlarge hor
        omega
      · omega
    have := hzero hbig
    omega
  split
  · rename_i hdrop
    obtain ⟨rfl, hbig⟩ := hlate ((Bool.or_eq_true_iff.mp hdrop).imp .inl of_decide_eq_true)
    refine ⟨?_, hfits, fun _ => by rwa [hconcat]⟩
    rw [hconcat, ← hvalue, pow_succ]
    ring
  · rename_i hkeep
    rw [Bool.or_eq_true_iff, not_or, decide_eq_true_eq, Nat.not_lt] at hkeep
    refine ⟨?_, hkeep.2, fun hor => hconcat ▸ (hlate (.inl hor)).2⟩
    rw [hconcat, ← hvalue]
    show (s.value * 10 + d) * 10 ^ s.dropped = _
    obtain hdropped | hdropped := Nat.eq_zero_or_pos s.dropped
    · rw [hdropped, pow_zero, Nat.mul_one, Nat.mul_one]
    · obtain ⟨rfl, -⟩ := hlate (.inl (.inr hdropped))
      ring

theorem Significand.Holds.foldl (h : s.Holds cs) (hshort : IsShort (cs ++ ds)) :
    (ds.foldl Significand.push s).Holds (cs ++ ds) := by
  induction ds generalizing s cs with
  | nil => rwa [List.append_nil]
  | cons d ds ih =>
    rw [List.append_cons] at hshort ⊢
    refine ih (h.push fun front hfront => hshort front ?_) hshort
    exact hfront.trans (List.prefix_append _ _)

theorem Significand.dropped_foldl (s : Significand) (ds : List Char) :
    s.dropped ≤ (ds.foldl Significand.push s).dropped ∧
      (ds.foldl Significand.push s).dropped ≤ s.dropped + ds.length := by
  induction ds generalizing s with
  | nil => exact ⟨Nat.le_refl _, Nat.le_refl _⟩
  | cons d ds ih =>
    have hpush : s.dropped ≤ (s.push d).dropped ∧ (s.push d).dropped ≤ s.dropped + 1 := by
      unfold Significand.push
      dsimp only
      split
      · exact ⟨Nat.le_succ _, Nat.le_refl _⟩
      · exact ⟨Nat.le_refl _, Nat.le_succ _⟩
    obtain ⟨hlow, hhigh⟩ := ih (s.push d)
    rw [List.foldl_cons, List.length_cons]
    omega

/-! ## Scaling -/

open Binary64

theorem exists_powerOfTen {n : ℕ} (hn : n ≤ 19) :
    ∃ x, powerOfTen n = some x ∧ x.magnitude = 10 ^ n := by
  have hfits : 1 * 5 ^ n < 2 * leastNormal := by
    rw [Nat.one_mul]
    exact (Nat.pow_le_pow_right (Nat.succ_pos 4) hn).trans_lt (by decide)
  have hpower := representable_mul_pow_ten hfits (by omega)
  have hratio : ((1 * 10 ^ n : ℕ) : ℚ) / (1 : ℕ) = 10 ^ n := by norm_num
  rw [Nat.cast_one, one_mul, ← hratio] at hpower
  obtain ⟨x, hx, hvalue⟩ := exists_roundQuotient_of_representable false Nat.one_pos hpower
  exact ⟨x, hx, hvalue.trans hratio⟩

/-- What there is beyond three digits is a power of ten, so that 53 binary digits are enough. -/
theorem mul_five_pow_lt {j : ℕ} (hk : k < 1000) (hj : j < 20)
    (h : k * 10 ^ j ≤ maxSignificand) : k * 5 ^ j < 2 * leastNormal := by
  have hle : k * 10 ^ j ≤ 18446744073709551615 := h
  show _ < 9007199254740992
  clear h
  interval_cases j <;> omega

theorem exists_scaled_up {n j : ℕ} (hpos : 0 < k) (hk : k < 1000) (h : n * 10 ^ j = k)
    (negative : Bool) :
    ∃ x, scaled negative n (.ofNat j) = .ok x ∧ x.negative = negative ∧ x.magnitude = k := by
  have hn : 0 < n := Nat.pos_of_ne_zero fun hzero => by
    rw [hzero, Nat.zero_mul] at h
    omega
  have hle : n ≤ k := h ▸ Nat.le_mul_of_pos_right n (Nat.pow_pos (by decide))
  have hpow : 10 ^ j < 10 ^ 3 := (Nat.le_mul_of_pos_left (10 ^ j) hn).trans_lt (h.trans_lt hk)
  have hj : j < 3 := (Nat.pow_lt_pow_iff_right (by decide)).mp hpow
  obtain ⟨x, hx, hxvalue⟩ := exists_ofNat_of_representable
    (representable_natCast ((hle.trans_lt hk).trans (by decide)))
  obtain ⟨p, hp, hpvalue⟩ := exists_powerOfTen (n := j) (by omega)
  have hproduct : x.magnitude * p.magnitude = k := by
    rw [hxvalue, hpvalue]
    exact_mod_cast h
  obtain ⟨y, hy, hyvalue⟩ := exists_mul_of_representable (x := x) (y := p) (by
    rw [hproduct]
    exact representable_natCast (hk.trans (by decide)))
  refine ⟨{ y with negative := negative }, ?_, rfl, hyvalue.trans hproduct⟩
  unfold scaled
  rw [hx]
  dsimp only
  rw [if_pos (by unfold maxPower; omega), hp, Option.bind_some, hy]

theorem exists_scaled_down {n j : ℕ} (hn : n ≤ maxSignificand) (hpos : 0 < k) (hk : k < 1000)
    (h : n = k * 10 ^ (j + 1)) (negative : Bool) :
    ∃ x, scaled negative n (.negSucc j) = .ok x ∧ x.negative = negative ∧ x.magnitude = k := by
  have hpow : 10 ^ (j + 1) < 10 ^ 20 :=
    (Nat.le_mul_of_pos_left (10 ^ (j + 1)) hpos).trans_lt ((h ▸ hn).trans_lt (by decide))
  have hj : j + 1 < 20 := (Nat.pow_lt_pow_iff_right (by decide)).mp hpow
  have hrep : Representable n := by
    rw [h, Nat.cast_mul, Nat.cast_pow]
    exact representable_mul_pow_ten (mul_five_pow_lt hk hj (h ▸ hn)) (by omega)
  obtain ⟨x, hx, hxvalue⟩ := exists_ofNat_of_representable hrep
  obtain ⟨p, hp, hpvalue⟩ := exists_powerOfTen (n := j + 1) (by omega)
  have hratio : x.magnitude / p.magnitude = k := by
    rw [hxvalue, hpvalue, h, Nat.cast_mul, Nat.cast_pow, Nat.cast_ofNat, mul_div_assoc,
      div_self (by positivity), mul_one]
  obtain ⟨y, hy, hyvalue⟩ := exists_div_of_representable (x := x) (y := p)
    (by rw [hpvalue]; positivity) (by
      rw [hratio]
      exact representable_natCast (hk.trans (by decide)))
  refine ⟨{ y with negative := negative }, ?_, rfl, hyvalue.trans hratio⟩
  have hsmall : j < maxPower := (Nat.lt_of_succ_lt hj).trans (by decide)
  unfold scaled
  rw [hx]
  dsimp only
  rw [Nat.div_eq_of_lt hsmall, Nat.mod_eq_of_lt hsmall, scaleDown, hp, Option.bind_some, hy]

/-- A whole number below 1000 needs no rounding, although its digits may be up to 64 bits long. -/
theorem exists_scaled {n : ℕ} (hn : n ≤ maxSignificand) (hpos : 0 < k) (hk : k < 1000)
    (h : (n : ℚ) * 10 ^ e = k) (negative : Bool) :
    ∃ x, scaled negative n e = .ok x ∧ x.negative = negative ∧ x.magnitude = k := by
  cases e with
  | ofNat j =>
    rw [Int.ofNat_eq_natCast, zpow_natCast] at h
    exact exists_scaled_up hpos hk (by exact_mod_cast h) negative
  | negSucc j =>
    rw [zpow_negSucc, ← div_eq_mul_inv, div_eq_iff (by positivity)] at h
    exact exists_scaled_down hn hpos hk (by exact_mod_cast h) negative

/-! ## Reading -/

variable {t : NumberText}

/-- The digits that are kept of a number's text. -/
def NumberText.significand (t : NumberText) : Significand :=
  (t.fraction.getD []).foldl Significand.push
    { t.whole.foldl Significand.push ⟨0, 0, false⟩ with full := false }

theorem NumberText.significand_holds (h : IsShort t.digits) : t.significand.Holds t.digits := by
  have hstart : Significand.Holds ⟨0, 0, false⟩ [] := ⟨rfl, Nat.zero_le _, by decide⟩
  have hshort : IsShort ([] ++ t.whole) := fun front hfront =>
    h front (hfront.trans (List.prefix_append _ _))
  have hwhole := hstart.foldl hshort
  have hagain : Significand.Holds
      { t.whole.foldl Significand.push ⟨0, 0, false⟩ with full := false } t.whole :=
    ⟨hwhole.value, hwhole.fits, fun hor => hwhole.large (.inr (hor.resolve_left nofun))⟩
  exact hagain.foldl h

/-- What is kept is scaled by the exponent, less the digits of the fraction that were kept. -/
theorem floatValue_eq (h : t.power.natAbs ≤ maxExponent) :
    floatValue t = scaled t.negative t.significand.value
      (t.significand.dropped + (t.power - (t.fraction.getD []).length)) := by
  obtain ⟨hlow, hhigh⟩ := Significand.dropped_foldl
    { t.whole.foldl Significand.push ⟨0, 0, false⟩ with full := false } (t.fraction.getD [])
  unfold floatValue NumberText.significand
  unfold NumberText.power at h ⊢
  dsimp only at hlow hhigh ⊢
  cases hexponent : t.exponent with
  | none =>
    dsimp only
    congr 1
    omega
  | some exponent =>
    obtain ⟨below, digits⟩ := exponent
    rw [hexponent] at h
    dsimp only at h ⊢
    have hread : ¬ digitsValue 10 digits > maxExponent := by
      cases below <;> simp only [Bool.false_eq_true, if_true, if_false] at h <;> omega
    rw [if_neg hread]
    congr 1
    cases below <;> simp only [Bool.false_eq_true, if_true, if_false] <;> omega

theorem exists_floatValue_of_value (hpos : 0 < k) (hk : k < 1000)
    (hpower : t.power.natAbs ≤ maxExponent)
    (h : (digitsValue 10 t.digits : ℚ) * 10 ^ (t.power - (t.fraction.getD []).length) = k) :
    ∃ x, floatValue t = .ok x ∧ x.negative = t.negative ∧ x.magnitude = k := by
  have hholds := NumberText.significand_holds (isShort_of_value hk h)
  rw [floatValue_eq hpower]
  refine exists_scaled hholds.fits hpos hk ?_ t.negative
  rw [zpow_add₀ (by norm_num), ← mul_assoc, ← h, ← hholds.value, Nat.cast_mul, Nat.cast_pow,
    zpow_natCast, Nat.cast_ofNat]

theorem exists_numberValue_of_value (hpos : 0 < k) (hk : k < 1000)
    (hpower : t.power.natAbs ≤ maxExponent) (h : t.value = k) :
    ∃ v, numberValue t = .ok v ∧ v.IsNumber k := by
  have hsign : t.negative = false := by
    by_contra hneg
    rw [Bool.not_eq_false] at hneg
    have hle : t.value ≤ 0 := by
      rw [NumberText.value, if_pos hneg, neg_one_mul, neg_mul]
      exact neg_nonpos_of_nonneg (by positivity)
    rw [h] at hle
    exact absurd hle (not_le_of_gt (by exact_mod_cast hpos))
  have hvalue : (digitsValue 10 t.digits : ℚ) * 10 ^ (t.power - (t.fraction.getD []).length) =
      k := by
    rw [← h, NumberText.value, hsign, if_neg Bool.false_ne_true, one_mul]
  unfold numberValue
  dsimp only
  split
  · rename_i hint
    simp only [Bool.and_eq_true, Option.isNone_iff_eq_none, decide_eq_true_eq] at hint
    obtain ⟨⟨hfraction, hexponent⟩, -⟩ := hint
    have hk' : digitsValue 10 t.whole = k := by
      simpa [NumberText.digits, NumberText.power, hfraction, hexponent] using hvalue
    rw [hsign, hk']
    exact ⟨.int k, rfl, Json.isNumber_int_iff.mpr rfl⟩
  · obtain ⟨x, hx, hnegative, hmagnitude⟩ := exists_floatValue_of_value hpos hk hpower hvalue
    rw [hx]
    refine ⟨.float x, rfl, ?_⟩
    rw [Json.IsNumber, Binary64.value, hnegative, hsign, if_neg Bool.false_ne_true, hmagnitude]

/-- A number begins with a sign or a digit. -/
theorem exists_isNumeric_of_readNumberText {cs rest : List Char}
    (h : readNumberText cs = .ok (t, rest)) : ∃ c cs', cs = c :: cs' ∧ isNumeric c = true := by
  cases cs with
  | nil => cases h
  | cons c cs =>
    refine ⟨c, cs, rfl, ?_⟩
    by_contra hc
    have hminus : c ≠ '-' := by
      rintro rfl
      exact hc rfl
    have hdigits : readDigits (c :: cs) = .error .malformed := by
      unfold readDigits
      rw [List.span_eq_takeWhile_dropWhile, List.takeWhile_cons,
        if_neg fun hdigit => hc (isNumeric_of_isDigit hdigit)]
    simp [readNumberText, hminus, hdigits, bind, Except.bind] at h

/-- **Whole numbers.** A text that writes a positive whole number below 1000 is read as that number,
with a point and an exponent or without. -/
theorem exists_ofText_of_value {text : String} (ht : readNumberText text.toList = .ok (t, []))
    (hpower : t.power.natAbs ≤ maxExponent) (hpos : 0 < k) (hk : k < 1000) (h : t.value = k) :
    ∃ v, Json.ofText text = .ok v ∧ v.IsNumber k := by
  obtain ⟨v, hv, hnumber⟩ := exists_numberValue_of_value hpos hk hpower h
  obtain ⟨c, cs, hcs, hc⟩ := exists_isNumeric_of_readNumberText ht
  refine ⟨v, ?_, hnumber⟩
  have hread : readNumber .full text.toList = .ok (v, []) := by
    unfold readNumber
    rw [ht]
    simp [bind, Except.bind, pure, Except.pure, hv]
  have hvalue : value .full maxDepth text.toList = .ok (v, []) := by
    unfold value
    rw [hcs] at hread ⊢
    rw [readValue_of_isNumeric hc, hread]
  unfold Json.ofText
  rw [hvalue]
  rfl

end JsonText

end Detour
