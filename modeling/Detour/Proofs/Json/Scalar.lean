import Detour.Json.Reader
import Detour.Proofs.Json.Character
import Mathlib.Data.List.TakeDrop

/-!
# Reading written numbers and strings

An integer of 64 bits is read from its digits (`readNumber_renderInt`), and a string from its
escaped characters (`readString_renderString`), whatever follows them in the text.
-/

namespace Detour

/-! ## Digits -/

theorem digitValue?_digitChar : ∀ d < 10, digitValue? 10 (Nat.digitChar d) = some d := by decide

theorem digitsValue_concat (base : ℕ) (digits : List Char) (c : Char) :
    digitsValue base (digits ++ [c]) =
      digitsValue base digits * base + (digitValue? base c).getD 0 := by
  unfold digitsValue; rw [List.foldl_append]; rfl

/-- The digits of a number write that number. -/
theorem digitsValue_toDigits (n : ℕ) : digitsValue 10 (Nat.toDigits 10 n) = n := by
  induction n using Nat.base_induction 10 (by decide) with
  | single m hm =>
    rw [Nat.toDigits_of_lt_base hm, ← List.nil_append [m.digitChar], digitsValue_concat,
      digitValue?_digitChar m hm]
    show 0 * 10 + m = m
    omega
  | digit m k hk hm ih =>
    rw [← Nat.toDigits_append_toDigits (by decide) hm hk, Nat.toDigits_of_lt_base hk,
      digitsValue_concat, ih, digitValue?_digitChar k hk]
    show m * 10 + k = 10 * m + k
    omega

theorem digitChar_ne_zero : ∀ d < 10, 0 < d → Nat.digitChar d ≠ '0' := by decide

/-- No number but zero is written with a zero in front. -/
theorem head?_toDigits_ne_zero {n : ℕ} (h : 0 < n) : (Nat.toDigits 10 n).head? ≠ some '0' := by
  induction n using Nat.base_induction 10 (by decide) with
  | single m hm =>
    rw [Nat.toDigits_of_lt_base hm]
    intro h0
    exact digitChar_ne_zero m hm h (Option.some.inj h0)
  | digit m k hk hm ih =>
    rw [← Nat.toDigits_append_toDigits (by decide) hm hk, List.head?_append]
    cases hd : (Nat.toDigits 10 m).head? with
    | none => exact absurd (List.head?_eq_none_iff.mp hd) Nat.toDigits_ne_nil
    | some d => rw [← hd]; rw [hd, Option.some_or, ← hd]; exact ih hm

namespace JsonText

/-! ## Numbers -/

/-- The text does not continue a number. -/
def EndsNumber (rest : List Char) : Prop :=
  ∀ c cs, rest = c :: cs → c.isDigit = false ∧ c ≠ '.' ∧ c ≠ 'e' ∧ c ≠ 'E'

theorem endsNumber_nil : EndsNumber [] := by
  intro c cs h; cases h

theorem endsNumber_cons {c : Char} (h : c.isDigit = false ∧ c ≠ '.' ∧ c ≠ 'e' ∧ c ≠ 'E')
    (cs : List Char) : EndsNumber (c :: cs) := by
  intro c' cs' h'; cases h'; exact h

theorem span_isDigit_append {digits rest : List Char} (hd : ∀ c ∈ digits, c.isDigit = true)
    (hr : EndsNumber rest) : (digits ++ rest).span Char.isDigit = (digits, rest) := by
  have hrest : rest.takeWhile Char.isDigit = [] ∧ rest.dropWhile Char.isDigit = rest := by
    cases rest with
    | nil => exact ⟨rfl, rfl⟩
    | cons c cs =>
      have hc := (hr c cs rfl).1
      rw [List.takeWhile_cons, List.dropWhile_cons, hc]
      exact ⟨rfl, rfl⟩
  rw [List.span_eq_takeWhile_dropWhile, List.takeWhile_append_of_pos hd,
    List.dropWhile_append_of_pos hd, hrest.1, hrest.2, List.append_nil]

theorem readDigits_append {digits rest : List Char} (hne : digits ≠ [])
    (hd : ∀ c ∈ digits, c.isDigit = true) (hr : EndsNumber rest) :
    readDigits (digits ++ rest) = .ok (digits, rest) := by
  unfold readDigits
  rw [span_isDigit_append hd hr]
  cases digits with
  | nil => exact absurd rfl hne
  | cons d ds => rfl

theorem readExponent_of_endsNumber {rest : List Char} (h : EndsNumber rest) :
    readExponent rest = .ok (none, rest) := by
  cases rest with
  | nil => rfl
  | cons c cs =>
    obtain ⟨-, -, he, hE⟩ := h c cs rfl
    simp [readExponent, he, hE]

theorem toDigits_noLeadingZero (n : ℕ) :
    ((Nat.toDigits 10 n).length > 1 && (Nat.toDigits 10 n).head? = some '0') = false := by
  rcases Nat.eq_zero_or_pos n with rfl | h
  · rfl
  · rw [decide_eq_false (head?_toDigits_ne_zero h), Bool.and_false]

/-- An unsigned whole number, and what is not part of it. -/
theorem readNumberText_toDigits (n : ℕ) {rest : List Char} (h : EndsNumber rest) :
    readNumberText (Nat.toDigits 10 n ++ rest) =
      .ok (⟨false, Nat.toDigits 10 n, none, none⟩, rest) := by
  have hdigits := readDigits_append Nat.toDigits_ne_nil (isDigit_of_mem_toDigits n) h
  have hzero := toDigits_noLeadingZero n
  have hsign : ∀ cs, Nat.toDigits 10 n ++ rest ≠ '-' :: cs := by
    intro cs hcs
    obtain ⟨d, ds, hd⟩ := List.exists_cons_of_ne_nil (Nat.toDigits_ne_nil : Nat.toDigits 10 n ≠ [])
    have hdigit := isDigit_of_mem_toDigits n d (by rw [hd]; exact List.mem_cons_self)
    rw [hd, List.cons_append] at hcs
    rw [(List.cons.inj hcs).1] at hdigit
    cases hdigit
  have hpoint : ∀ cs, rest ≠ '.' :: cs := fun cs hcs => (h '.' cs hcs).2.1 rfl
  simp [readNumberText, bind, Except.bind, pure, Except.pure, hdigits, hzero,
    readExponent_of_endsNumber h]

theorem readNumberText_neg_toDigits (n : ℕ) {rest : List Char} (h : EndsNumber rest) :
    readNumberText ('-' :: (Nat.toDigits 10 n ++ rest)) =
      .ok (⟨true, Nat.toDigits 10 n, none, none⟩, rest) := by
  have hdigits := readDigits_append Nat.toDigits_ne_nil (isDigit_of_mem_toDigits n) h
  have hzero := toDigits_noLeadingZero n
  have hpoint : ∀ cs, rest ≠ '.' :: cs := fun cs hcs => (h '.' cs hcs).2.1 rfl
  simp [readNumberText, bind, Except.bind, pure, Except.pure, hdigits, hzero,
    readExponent_of_endsNumber h]

/-- The integers that are read as such: those of 64 bits with or without a sign. -/
def IsWord (n : ℤ) : Prop := -(maxNegative : ℤ) ≤ n ∧ n ≤ maxSignificand

theorem numberValue_toDigits {n : ℕ} (h : n ≤ maxSignificand) :
    numberValue ⟨false, Nat.toDigits 10 n, none, none⟩ = .ok (.int n) := by
  unfold numberValue
  dsimp only
  rw [digitsValue_toDigits, decide_eq_true h]
  rfl

theorem numberValue_neg_toDigits {n : ℕ} (h0 : 0 < n) (h : n ≤ maxNegative) :
    numberValue ⟨true, Nat.toDigits 10 n, none, none⟩ = .ok (.int (-n)) := by
  have hn : n ≤ maxSignificand := Nat.le_trans h (by decide)
  unfold numberValue
  dsimp only
  rw [digitsValue_toDigits, decide_eq_true hn, decide_eq_true h0, decide_eq_true h]
  rfl

/-- **Integers.** What is written for an integer of 64 bits is read as that integer. -/
theorem readNumber_renderInt {n : ℤ} (hn : IsWord n) {rest : List Char} (h : EndsNumber rest) :
    readNumber .full (renderInt n ++ rest) = .ok (.int n, rest) := by
  obtain ⟨hlow, hhigh⟩ := hn
  unfold readNumber
  cases n with
  | ofNat n =>
    have hn : n ≤ maxSignificand := Int.ofNat_le.mp hhigh
    rw [show renderInt (.ofNat n) = Nat.toDigits 10 n from rfl, readNumberText_toDigits n h]
    simp only [bind, Except.bind]
    rw [numberValue_toDigits hn]; rfl
  | negSucc n =>
    have hn : n + 1 ≤ maxNegative := by omega
    rw [show renderInt (.negSucc n) = '-' :: Nat.toDigits 10 (n + 1) from rfl, List.cons_append,
      readNumberText_neg_toDigits (n + 1) h]
    simp only [bind, Except.bind]
    rw [numberValue_neg_toDigits (Nat.succ_pos n) hn]; rfl

/-! ## Strings -/

/-- The escaped code of a control character. -/
theorem hexDigits_of_lt : ∀ n < 32,
    hexDigits n 4 = ['0', '0', (n / 16).digitChar, (n % 16).digitChar] ∧
    (['0', '0', (n / 16).digitChar, (n % 16).digitChar].all (isDigitIn 16) = true ∧
      digitsValue 16 ['0', '0', (n / 16).digitChar, (n % 16).digitChar] = n) := by
  decide

theorem readUnit_hexDigits {n : ℕ} (h : n < 32) (rest : List Char) :
    readUnit (hexDigits n 4 ++ rest) = .ok (n, rest) := by
  obtain ⟨hdigits, hall, hvalue⟩ := hexDigits_of_lt n h
  rw [hdigits]
  unfold readUnit
  simp only [List.cons_append, List.nil_append]
  rw [if_pos hall, hvalue]

theorem readUnicode_hexDigits {c : Char} (h : c.toNat < 32) (rest : List Char) :
    readUnicode .full (hexDigits c.toNat 4 ++ rest) = .ok (c, rest) := by
  have hsurrogate : ¬ (0xDC00 ≤ c.toNat) ∧ c.toNat < 0xD800 := by omega
  simp [readUnicode, bind, Except.bind, pure, Except.pure, readUnit_hexDigits h, hsurrogate]

/-- One turn of the reading takes in one character as it is written. -/
theorem readStringLoop_escapeChar (fuel : ℕ) (acc : List Char) (c : Char) (rest : List Char) :
    readStringLoop .full (fuel + 1) acc (escapeChar c ++ rest) =
      readStringLoop .full fuel (c :: acc) rest := by
  unfold escapeChar
  split
  · rfl
  · rfl
  · rfl
  · rfl
  · rfl
  · rfl
  · rfl
  · rename_i hquote hback _ _ _ _ _
    by_cases hc : c.toNat < 0x20
    · rw [if_pos hc, List.cons_append, List.cons_append, readStringLoop]
      simp only [readEscape, readUnicode_hexDigits hc]
    · rw [if_neg hc, List.singleton_append, readStringLoop]
      · rw [if_neg hc]
      · exact fun h => hquote h
      · exact fun h => hback h

theorem readStringLoop_flatMap (cs : List Char) (fuel : ℕ) (h : cs.length < fuel)
    (acc rest : List Char) :
    readStringLoop .full fuel acc (cs.flatMap escapeChar ++ '"' :: rest) =
      .ok (String.ofList (acc.reverse ++ cs), rest) := by
  induction cs generalizing fuel acc with
  | nil =>
    obtain ⟨fuel, rfl⟩ : ∃ n, fuel = n + 1 := ⟨fuel - 1, by simp at h; omega⟩
    rw [List.append_nil]; rfl
  | cons c cs ih =>
    obtain ⟨fuel, rfl⟩ : ∃ n, fuel = n + 1 := ⟨fuel - 1, by simp at h; omega⟩
    rw [List.flatMap_cons, List.append_assoc, readStringLoop_escapeChar,
      ih fuel (by simpa using h), List.reverse_cons, List.append_assoc, List.singleton_append]

theorem escapeChar_ne_nil (c : Char) : escapeChar c ≠ [] := by
  unfold escapeChar
  repeat' split
  all_goals exact List.cons_ne_nil _ _

theorem length_le_flatMap_escapeChar (cs : List Char) :
    cs.length ≤ (cs.flatMap escapeChar).length := by
  induction cs with
  | nil => exact Nat.le_refl 0
  | cons c cs ih =>
    have hc := List.length_pos_iff.mpr (escapeChar_ne_nil c)
    rw [List.flatMap_cons, List.length_append, List.length_cons]
    omega

/-- A text takes more room when it is written. -/
theorem length_lt_renderString (s : String) : s.toList.length < (renderString s).length := by
  have hlength := length_le_flatMap_escapeChar s.toList
  unfold renderString
  simp only [List.length_append, List.length_cons]
  omega

/-- **Strings.** What is written for a string is read as that string. -/
theorem readString_renderString (s : String) (rest : List Char) :
    readString .full (s.toList.flatMap escapeChar ++ '"' :: rest) = .ok (s, rest) := by
  have hlength := length_le_flatMap_escapeChar s.toList
  unfold readString
  rw [readStringLoop_flatMap s.toList _ (by rw [List.length_append]; omega),
    List.reverse_nil, List.nil_append, String.ofList_toList]

end JsonText

end Detour
