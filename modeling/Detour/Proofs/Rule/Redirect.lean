import Detour.Proofs.Json.Decimal
import Detour.Proofs.Rule.Silence
import Detour.Proofs.Rule.Substitution

/-!
# The status that a redirect value gives

What a value denotes is said without the reading of it: a number denotes the whole number that it
equals, and a text the one that its digits write (`Redirect.Denotes`). An accepted rule redirects
with that number if it is a status, and with 302 if there is no such number
(`redirect_normalized`).
-/

namespace Detour

/-! ## White space around a text -/

namespace Unicode

theorem exists_trim (cs : List Char) : ∃ front rear, cs = front ++ trim cs ++ rear ∧
    (∀ c ∈ front, isWhiteSpace c = true) ∧ ∀ c ∈ rear, isWhiteSpace c = true := by
  have hwhite (ds : List Char) : ∀ c ∈ ds.takeWhile isWhiteSpace, isWhiteSpace c = true :=
    fun c hc => List.mem_takeWhile_imp hc
  refine ⟨cs.takeWhile isWhiteSpace,
    ((cs.dropWhile isWhiteSpace).reverse.takeWhile isWhiteSpace).reverse, ?_, hwhite cs,
    fun c hc => hwhite _ c (List.mem_reverse.mp hc)⟩
  rw [trim, List.append_assoc, ← List.reverse_append, List.takeWhile_append_dropWhile,
    List.reverse_reverse, List.takeWhile_append_dropWhile]

theorem trim_append {front core rear : List Char} (hfront : ∀ c ∈ front, isWhiteSpace c = true)
    (hrear : ∀ c ∈ rear, isWhiteSpace c = true) (hne : core ≠ [])
    (hcore : ∀ c ∈ core, isWhiteSpace c = false) : trim (front ++ core ++ rear) = core := by
  have hkeep (ds more : List Char) (hds : ds ≠ []) (hall : ∀ c ∈ ds, isWhiteSpace c = false) :
      (ds ++ more).dropWhile isWhiteSpace = ds ++ more := by
    obtain ⟨d, ds, rfl⟩ := List.exists_cons_of_ne_nil hds
    rw [List.cons_append, List.dropWhile_cons_of_neg (by simp [hall d List.mem_cons_self])]
  have hback : core.reverse.dropWhile isWhiteSpace = core.reverse := by
    have := hkeep core.reverse [] (List.reverse_ne_nil_iff.mpr hne)
      fun c hc => hcore c (List.mem_reverse.mp hc)
    rwa [List.append_nil] at this
  rw [trim, List.append_assoc, List.dropWhile_append_of_pos hfront, hkeep core rear hne hcore,
    List.reverse_append, List.dropWhile_append_of_pos fun c hc => hrear c (List.mem_reverse.mp hc),
    hback, List.reverse_reverse]

theorem isWhiteSpace_digitChar : ∀ a < 10, isWhiteSpace a.digitChar = false := by decide +kernel

theorem isWhiteSpace_plus : isWhiteSpace '+' = false := by decide +kernel

theorem isWhiteSpace_of_isDigit {c : Char} (h : c.isDigit = true) : isWhiteSpace c = false := by
  obtain ⟨a, ha, rfl⟩ := Template.exists_digitChar h
  exact isWhiteSpace_digitChar a ha

end Unicode

/-! ## What a value denotes -/

namespace Redirect

/-- The text is made of digits, and they write the number. -/
structure IsDigits (cs : List Char) (n : ℕ) : Prop where
  ne_nil : cs ≠ []
  isDigit : ∀ c ∈ cs, c.isDigit = true
  value : digitsValue 10 cs = n

/-- Digits that write the number, with a plus sign in front or none. -/
inductive Writes : List Char → ℕ → Prop
  | digits {cs : List Char} {n : ℕ} (h : IsDigits cs n) : Writes cs n
  | plus {cs : List Char} {n : ℕ} (h : IsDigits cs n) : Writes ('+' :: cs) n

/-- The text writes the number, with white space around it. -/
def Spells (s : String) (n : ℕ) : Prop :=
  ∃ front core rear, s.toList = front ++ core ++ rear ∧ Writes core n ∧
    (∀ c ∈ front, Unicode.isWhiteSpace c = true) ∧ ∀ c ∈ rear, Unicode.isWhiteSpace c = true

/-- The value is a number that equals the whole number, or a text that writes it. -/
inductive Denotes : Json → ℕ → Prop
  | number {v : Json} {n : ℕ} (h : v.IsNumber n) : Denotes v n
  | text {s : String} {n : ℕ} (h : Spells s n) : Denotes (.string s) n

/-- The value denotes a number that is no status, but not one beyond 64 bits. A number may reach
the bound. -/
inductive Misses : Json → Prop
  | number {v : Json} {n : ℕ} (h : v.IsNumber n) (hn : n ≤ 2 ^ 64) (hrange : n < 100 ∨ 999 < n) :
    Misses v
  | text {s : String} {n : ℕ} (h : Spells s n) (hn : n < 2 ^ 64) (hrange : n < 100 ∨ 999 < n) :
    Misses (.string s)

variable {cs : List Char} {v : Json} {n : ℕ}

theorem Writes.ne_nil (h : Writes cs n) : cs ≠ [] := by
  cases h with
  | digits h => exact h.ne_nil
  | plus h => exact List.cons_ne_nil _ _

theorem Writes.isWhiteSpace (h : Writes cs n) : ∀ c ∈ cs, Unicode.isWhiteSpace c = false := by
  cases h with
  | digits h => exact fun c hc => Unicode.isWhiteSpace_of_isDigit (h.isDigit c hc)
  | plus h =>
    exact List.forall_mem_cons.mpr
      ⟨Unicode.isWhiteSpace_plus, fun c hc => Unicode.isWhiteSpace_of_isDigit (h.isDigit c hc)⟩

theorem writes_plus_iff : Writes ('+' :: cs) n ↔ IsDigits cs n := by
  refine ⟨fun h => ?_, .plus⟩
  cases h with
  | digits h => exact absurd (h.isDigit '+' List.mem_cons_self) (by decide)
  | plus h => exact h

theorem writes_iff_of_head (h : ∀ ds, cs ≠ '+' :: ds) : Writes cs n ↔ IsDigits cs n := by
  refine ⟨fun hwrites => ?_, .digits⟩
  cases hwrites with
  | digits hdigits => exact hdigits
  | plus => exact absurd rfl (h _)

/-! ## Reading digits -/

theorem codeOfDigits?_eq_some_iff : codeOfDigits? cs = some n ↔ Writes cs n ∧ n ≤ maxCode := by
  have hread (ds : List Char) :
      (if ds.isEmpty || !ds.all Char.isDigit || digitsValue 10 ds > maxCode then none
        else some (digitsValue 10 ds)) = some n ↔ IsDigits ds n ∧ n ≤ maxCode := by
    rw [Option.ite_none_left_eq_some]
    simp only [Bool.or_eq_true, not_or, List.isEmpty_iff, Bool.not_eq_true', Bool.not_eq_false,
      List.all_eq_true, decide_eq_true_eq, Nat.not_lt, gt_iff_lt, Option.some_inj]
    constructor
    · rintro ⟨⟨⟨hne, hall⟩, hle⟩, rfl⟩
      exact ⟨⟨hne, hall, rfl⟩, hle⟩
    · rintro ⟨⟨hne, hall, rfl⟩, hle⟩
      exact ⟨⟨⟨hne, hall⟩, hle⟩, rfl⟩
  unfold codeOfDigits?
  dsimp only
  split
  · rw [hread, writes_plus_iff]
  · rename_i hhead
    rw [hread, writes_iff_of_head hhead]

theorem code?_string_eq_some_iff {s : String} :
    code? (.string s) = some n ↔ Spells s n ∧ n ≤ maxCode := by
  rw [code?, codeOfDigits?_eq_some_iff]
  refine and_congr_left fun _ => ⟨fun h => ?_, ?_⟩
  · obtain ⟨front, rear, htext, hfront, hrear⟩ := Unicode.exists_trim s.toList
    exact ⟨front, _, rear, htext, h, hfront, hrear⟩
  · rintro ⟨front, core, rear, htext, h, hfront, hrear⟩
    rwa [htext, Unicode.trim_append hfront hrear h.ne_nil h.isWhiteSpace]

/-! ## Reading numbers -/

theorem code?_int_eq_some_iff {z : ℤ} : code? (.int z) = some n ↔ z = n := by
  unfold code?
  dsimp only
  split
  · rw [Option.some_inj]; omega
  · exact ⟨nofun, by omega⟩

/-- The largest number that counts lies one above those of 64 bits. -/
theorem code?_float_eq_some_iff {x : Binary64} :
    code? (.float x) = some n ↔ ∃ m : ℕ, x.value = m ∧ m ≤ 2 ^ 64 ∧ n = min m maxCode := by
  simp only [← Binary64.toNat?_eq_some_iff]
  unfold code?
  dsimp only
  cases x.toNat? with
  | none => exact ⟨nofun, nofun⟩
  | some m =>
    dsimp only
    rw [Option.ite_none_right_eq_some, Option.some_inj]
    constructor
    · rintro ⟨hm, rfl⟩
      exact ⟨m, rfl, hm, rfl⟩
    · rintro ⟨_, hsome, hm, rfl⟩
      cases hsome
      exact ⟨hm, rfl⟩

/-- A number that is small enough is read off just the values that denote it. -/
theorem code?_eq_some_iff (hn : n < maxCode) : code? v = some n ↔ Denotes v n := by
  cases v with
  | int z =>
    rw [code?_int_eq_some_iff]
    refine ⟨fun h => .number (Json.isNumber_int_iff.mpr h), ?_⟩
    rintro ⟨h⟩
    exact Json.isNumber_int_iff.mp h
  | float x =>
    rw [code?_float_eq_some_iff]
    constructor
    · rintro ⟨m, hm, -, rfl⟩
      have hmin : min m maxCode = m := by omega
      exact .number (by rw [Json.IsNumber, hm, hmin])
    · rintro ⟨h⟩
      exact ⟨n, h, hn.le.trans (by decide), by omega⟩
  | string s =>
    rw [code?_string_eq_some_iff]
    constructor
    · rintro ⟨h, -⟩
      exact .text h
    · rintro (h | h)
      · cases h
      · exact ⟨h, hn.le⟩
  | null | bool | array | object =>
    constructor
    · intro h
      cases h
    · rintro ⟨h⟩
      cases h

theorem outOfRange_iff_misses (hword : ∀ z, v = .int z → JsonText.IsWord z) :
    outOfRange v = true ↔ ¬ v.Falsy ∧ Misses v := by
  rw [outOfRange_iff]
  refine and_congr_right fun _ => ?_
  cases v with
  | int z =>
    simp only [code?_int_eq_some_iff]
    constructor
    · rintro ⟨n, rfl, hrange⟩
      have hn : (n : ℤ) ≤ JsonText.maxSignificand := (hword _ rfl).2
      exact .number (Json.isNumber_int_iff.mpr rfl) (by unfold JsonText.maxSignificand at hn; omega) hrange
    · rintro ⟨h, -, hrange⟩
      exact ⟨_, Json.isNumber_int_iff.mp h, hrange⟩
  | float x =>
    simp only [code?_float_eq_some_iff]
    constructor
    · rintro ⟨_, ⟨m, hm, hle, rfl⟩, hrange⟩
      refine .number hm hle ?_
      unfold maxCode at hrange
      omega
    · rintro ⟨h, hle, hrange⟩
      refine ⟨_, ⟨_, h, hle, rfl⟩, ?_⟩
      unfold maxCode
      omega
  | string s =>
    simp only [code?_string_eq_some_iff]
    constructor
    · rintro ⟨n, ⟨h, hle⟩, hrange⟩
      exact .text h (Nat.lt_of_le_of_lt hle (by decide)) hrange
    · rintro (⟨h, -, -⟩ | ⟨h, hlt, hrange⟩)
      · cases h
      · exact ⟨_, ⟨h, Nat.le_of_lt_succ hlt⟩, hrange⟩
  | null | bool | array | object =>
    constructor
    · rintro ⟨_, h, -⟩
      cases h
    · rintro ⟨h, -, -⟩
      cases h

/-! ## The status -/

theorem isStatus_iff : isStatus n = true ↔ 100 ≤ n ∧ n ≤ 999 := by
  rw [isStatus, Bool.and_eq_true, decide_eq_true_eq, decide_eq_true_eq]

theorem status?_of_falsy {value : Option Json} (h : ∀ v, value = some v → v.Falsy) :
    status? value = none := by
  cases value with
  | none => rfl
  | some v => exact if_neg (by rw [Json.falsy_iff.mp (h v rfl)]; exact Bool.false_ne_true)

/-- A value that counts gives the status that it denotes, or 302 if it denotes none. -/
theorem exists_status?_of_not_falsy (h : ¬ v.Falsy) : ∃ status, status? (some v) = some status ∧
    (100 ≤ status ∧ status ≤ 999) ∧
    (∀ n, Denotes v n → 100 ≤ n → n ≤ 999 → status = n) ∧
    ((∀ n, Denotes v n → n < 100 ∨ 999 < n) → status = 302) := by
  have hstatus : status? (some v) = some (((code? v).filter isStatus).getD found) :=
    if_pos (by rwa [Json.falsy_iff, Bool.not_eq_false] at h)
  have hsmall {n : ℕ} (hn : n ≤ 999) : n < maxCode := hn.trans_lt (by decide)
  refine ⟨_, hstatus, isStatus_iff.mp (isStatus_of_status? hstatus), fun n hdenotes hlow hhigh => ?_,
    fun hnone => ?_⟩
  · rw [(code?_eq_some_iff (hsmall hhigh)).mpr hdenotes, Option.filter_some,
      if_pos (isStatus_iff.mpr ⟨hlow, hhigh⟩)]
    rfl
  · cases hcode : (code? v).filter isStatus with
    | none => rfl
    | some n =>
      obtain ⟨hn, hrange⟩ := Option.filter_eq_some_iff.mp hcode
      obtain ⟨hlow, hhigh⟩ := isStatus_iff.mp hrange
      have := hnone n ((code?_eq_some_iff (hsmall hhigh)).mp hn)
      omega

/-! ## What is told -/

/-- A report that a redirect is out of range. -/
def TellsRange (e : Event) : Bool := e.message = "Redirect status out of range, using 302"

/-- Of an accepted rule a redirect is told once, if it is out of range. -/
theorem filter_tellsRange {raw : RawRule} {rule : Rule} (hr : Rule.compile raw = .ok rule)
    (logger : Logger) : (logger.allEvents raw.reports).filter TellsRange =
      ((raw.redirect.filter outOfRange).map fun v => (Warning.redirectRange v).event).toList := by
  have hregistered : (logger.events (.registered rule)).filter TellsRange = [] := by
    cases logger <;> rfl
  rw [RawRule.allEvents_reports_ok hr, List.filter_append, hregistered, List.append_nil]
  unfold Rule.warnings
  rw [hr, List.map_append, List.filter_append]
  -- a condition is told in other words
  refine (congrArg (· ++ _) ?_).trans ((List.nil_append _).trans ?_)
  · split
    · split <;> rfl
    · rfl
  · cases raw.redirect with
    | none => rfl
    | some v =>
      rw [Option.filter_some]
      dsimp only
      split <;> rfl

end Redirect

theorem Json.IsNumber.falsy_iff {v : Json} {q : ℚ} (h : v.IsNumber q) : v.Falsy ↔ q = 0 := by
  cases v with
  | int z =>
    obtain rfl : (z : ℚ) = q := h
    rw [Int.cast_eq_zero]
    refine ⟨fun hfalsy => ?_, fun hzero => hzero ▸ .int⟩
    cases hfalsy
    rfl
  | float x =>
    obtain rfl : x.value = q := h
    rw [Binary64.value_eq_zero_iff]
    refine ⟨fun hfalsy => ?_, .float⟩
    cases hfalsy
    assumption
  | null | bool | string | array | object => cases h

open JsonText Redirect

/-- **Redirects.** A rule is accepted or not whatever its redirect is. It redirects just if there is
a value that is not null, false, zero or the empty text: with the status that the value denotes as a
number or as digits, or with 302 if it denotes none. A number that is out of range, as far as 64
bits go, is told of once, and nothing else is. Numbers below 1000 denote what they say, however they
are written. -/
theorem redirect_normalized {raw : RawRule} {r : Rule} (hr : Rule.compile raw = .ok r)
    (value : Option Json) :
    (∃ redirect, Rule.compile { raw with redirect := value } = .ok { r with redirect := redirect } ∧
      (redirect = none ↔ ∀ v, value = some v → v.Falsy) ∧
      ∀ v, value = some v → ¬ v.Falsy → ∃ status, redirect = some status ∧
        (100 ≤ status ∧ status ≤ 999) ∧
        (∀ n, Denotes v n → 100 ≤ n → n ≤ 999 → status = n) ∧
        ((∀ n, Denotes v n → n < 100 ∨ 999 < n) → status = 302)) ∧
    (∀ (v : Json) (q : ℚ), v.IsNumber q → (v.Falsy ↔ q = 0)) ∧
    ((∀ z, value = some (.int z) → IsWord z) → ∀ logger : Logger,
      (∀ v, value = some v → ¬ v.Falsy → Misses v →
        (logger.allEvents { raw with redirect := value }.reports).filter TellsRange =
          [(Warning.redirectRange v).event]) ∧
      ((∀ v, value = some v → v.Falsy ∨ ¬ Misses v) →
        (logger.allEvents { raw with redirect := value }.reports).filter TellsRange = [])) ∧
    ∀ (text : String) (t : NumberText) (n : ℕ), readNumberText text.toList = .ok (t, []) →
      t.power.natAbs ≤ maxExponent → 0 < n → n < 1000 → t.value = n →
      ∃ v, Json.ofText text = .ok v ∧ v.IsNumber n := by
  have hcompile : Rule.compile { raw with redirect := value } =
      .ok { r with redirect := status? value } := by
    obtain ⟨hsource, htarget, hpattern, hcondition, -⟩ := Rule.compile_eq_ok_iff.mp hr
    exact Rule.compile_eq_ok_iff.mpr ⟨hsource, htarget, hpattern, hcondition, rfl⟩
  refine ⟨⟨_, hcompile, ⟨?_, status?_of_falsy⟩, ?_⟩, fun _ _ h => h.falsy_iff,
    fun hword logger => ⟨?_, ?_⟩, fun _ _ _ ht hpower hpos hn h =>
      exists_ofText_of_value ht hpower hpos hn h⟩
  · rintro hnone v rfl
    by_contra hfalsy
    obtain ⟨status, hstatus, -⟩ := exists_status?_of_not_falsy hfalsy
    cases hnone.symm.trans hstatus
  · rintro v rfl hfalsy
    exact exists_status?_of_not_falsy hfalsy
  · rintro v rfl hfalsy hmisses
    have hrange := (outOfRange_iff_misses fun z hz => hword z (congrArg some hz)).mpr
      ⟨hfalsy, hmisses⟩
    rw [filter_tellsRange hcompile, Option.filter_some, if_pos hrange]
    rfl
  · intro hquiet
    rw [filter_tellsRange hcompile, Option.filter_eq_none_iff.mpr fun v hv hrange => ?_]
    · rfl
    · obtain rfl : value = some v := hv
      obtain ⟨hfalsy, hmisses⟩ :=
        (outOfRange_iff_misses fun z hz => hword z (congrArg some hz)).mp hrange
      exact (hquiet v rfl).elim hfalsy (· hmisses)

/-! ## Digits with a sign, and a number beyond 64 bits -/

def fromA : RawRule := ⟨none, some (.string "/a"), some (.string "/b"), none⟩

def signedDigits : Json := .string " +0301\n"

/-- The number `2 ^ 64`. -/
def bound : Json := .float ⟨false, 4503599627370496, 12⟩

theorem exists_compile_fromA : ∃ r, Rule.compile fromA = .ok r := by
  have heval : ((Rule.compile fromA).toOption.any fun _ => true) = true := by decide +kernel
  obtain ⟨r, hr, -⟩ := exists_ok_of_any heval
  exact ⟨r, hr⟩

theorem denotes_signedDigits : Denotes signedDigits 301 :=
  .text ⟨[' '], "+0301".toList, ['\n'], rfl,
    .plus ⟨by decide, List.all_eq_true.mp (by decide), by decide⟩,
    List.all_eq_true.mp (by decide +kernel), List.all_eq_true.mp (by decide +kernel)⟩

theorem isNumber_bound : bound.IsNumber (2 ^ 64 : ℕ) := by
  have hmagnitude : Binary64.magnitude ⟨false, 4503599627370496, 12⟩ = (2 ^ 64 : ℕ) := by
    unfold Binary64.magnitude
    norm_num
  exact hmagnitude

/-- White space, a sign and zeros in front do not count. A number at the bound does: it is told
of. -/
theorem redirect_normalized_fromA : ∃ r, Rule.compile fromA = .ok r ∧
    Rule.compile { fromA with redirect := some signedDigits } =
      .ok { r with redirect := some 301 } ∧
    Rule.compile { fromA with redirect := some bound } = .ok { r with redirect := some 302 } ∧
    ∀ logger : Logger,
      (logger.allEvents { fromA with redirect := some bound }.reports).filter TellsRange =
        [(Warning.redirectRange bound).event] := by
  obtain ⟨r, hr⟩ := exists_compile_fromA
  obtain ⟨⟨redirect, hcompile, -, hstatus⟩, -⟩ := redirect_normalized hr (some signedDigits)
  obtain ⟨⟨redirect', hcompile', -, hstatus'⟩, hzero, htold, -⟩ :=
    redirect_normalized hr (some bound)
  have hfalsy : ¬ signedDigits.Falsy := by
    rw [Json.falsy_iff]
    decide
  have hfalsy' : ¬ bound.Falsy := by
    rw [hzero bound _ isNumber_bound]
    exact Nat.cast_ne_zero.mpr (by decide)
  obtain ⟨status, rfl, -, hdenoted, -⟩ := hstatus signedDigits rfl hfalsy
  obtain ⟨status', rfl, -, -, hnone⟩ := hstatus' bound rfl hfalsy'
  obtain rfl := hdenoted 301 denotes_signedDigits (by decide) (by decide)
  obtain rfl := hnone fun n hn => by
    obtain ⟨h⟩ := hn
    obtain rfl : 2 ^ 64 = n := Nat.cast_injective (isNumber_bound.symm.trans h)
    exact .inr (by decide)
  refine ⟨r, hr, hcompile, hcompile', fun logger => ?_⟩
  exact (htold nofun logger).1 bound rfl hfalsy'
    (.number isNumber_bound (Nat.le_refl _) (.inr (by decide)))

end Detour
