import Detour.Json.Printer
import Mathlib.Data.Int.Notation
import Mathlib.Data.Nat.Notation

/-!
# The characters of written values

A written value begins with one of a few characters (`JsonText.renderValue_cons`) and has no control
characters (`JsonText.noControl_renderValue`).
-/

namespace Detour

namespace JsonText

/-! ## Numbers -/

/-- A character that a number may have. -/
def isNumeric (c : Char) : Bool := c.isDigit || ['-', '+', '.', 'e'].contains c

theorem isNumeric_of_isDigit {c : Char} (h : c.isDigit = true) : isNumeric c = true := by
  unfold isNumeric; rw [h]; rfl

theorem isDigit_of_mem_toDigits (n : ℕ) : ∀ c ∈ Nat.toDigits 10 n, c.isDigit = true :=
  fun _ hc => Nat.isDigit_of_mem_toDigits (by decide) (by decide) hc

/-- Every character of the text is one of a number. -/
def IsNumeric (cs : List Char) : Prop := ∀ c ∈ cs, isNumeric c = true

theorem isNumeric_append {a b : List Char} (ha : IsNumeric a) (hb : IsNumeric b) :
    IsNumeric (a ++ b) :=
  List.forall_mem_append.mpr ⟨ha, hb⟩

theorem isNumeric_cons {c : Char} (hc : isNumeric c = true) {cs : List Char} (hcs : IsNumeric cs) :
    IsNumeric (c :: cs) :=
  List.forall_mem_cons.mpr ⟨hc, hcs⟩

theorem isNumeric_toDigits (n : ℕ) : IsNumeric (Nat.toDigits 10 n) :=
  fun c hc => isNumeric_of_isDigit (isDigit_of_mem_toDigits n c hc)

theorem isNumeric_zeros (n : ℕ) : IsNumeric (zeros n) := by
  intro c hc
  rw [List.eq_of_mem_replicate hc]; rfl

theorem isNumeric_renderInt (n : ℤ) : IsNumeric (renderInt n) := by
  cases n with
  | ofNat n => exact isNumeric_toDigits n
  | negSucc n => exact isNumeric_cons rfl (isNumeric_toDigits (n + 1))

theorem isNumeric_positional {digits : List Char} (h : IsNumeric digits) (lead : ℤ) :
    IsNumeric (positional digits lead) := by
  cases lead with
  | negSucc n =>
    exact isNumeric_cons rfl (isNumeric_cons rfl (isNumeric_append (isNumeric_zeros n) h))
  | ofNat n =>
    have hwhole : IsNumeric (digits.take (n + 1)) := fun c hc => h c (List.mem_of_mem_take hc)
    have hfraction : IsNumeric (digits.drop (n + 1)) := fun c hc => h c (List.mem_of_mem_drop hc)
    refine isNumeric_append (isNumeric_append hwhole (isNumeric_zeros _)) (isNumeric_cons rfl ?_)
    split
    · exact isNumeric_zeros 1
    · exact hfraction

theorem isNumeric_scientific {digits : List Char} (h : IsNumeric digits) (lead : ℤ) :
    IsNumeric (scientific digits lead) := by
  have hexponent := isNumeric_toDigits lead.natAbs
  have hsign : isNumeric (if lead < 0 then '-' else '+') = true := by split <;> rfl
  refine isNumeric_append ?_ (isNumeric_cons rfl (isNumeric_cons hsign hexponent))
  match digits, h with
  | [], _ => exact isNumeric_zeros 1
  | [d], h => exact h
  | d :: d' :: rest, h =>
    obtain ⟨hd, hrest⟩ := List.forall_mem_cons.mp h
    exact isNumeric_cons hd (isNumeric_cons rfl hrest)

theorem isNumeric_renderFloat (x : Binary64) : IsNumeric (renderFloat x) := by
  have hdigits := isNumeric_toDigits x.shortest.digits
  have hsigned : ∀ cs, IsNumeric cs → IsNumeric (if x.negative then '-' :: cs else cs) := by
    intro cs hcs
    split
    · exact isNumeric_cons rfl hcs
    · exact hcs
  refine hsigned _ ?_
  split
  · exact isNumeric_positional hdigits _
  · exact isNumeric_scientific hdigits _

theorem renderInt_ne_nil (n : ℤ) : renderInt n ≠ [] := by
  cases n with
  | ofNat n => exact Nat.toDigits_ne_nil
  | negSucc n => exact List.cons_ne_nil _ _

theorem renderFloat_ne_nil (x : Binary64) : renderFloat x ≠ [] := by
  have htext : ∀ digits lead, positional digits lead ≠ [] ∧ scientific digits lead ≠ [] := by
    intro digits lead
    refine ⟨?_, List.append_ne_nil_of_right_ne_nil _ (List.cons_ne_nil _ _)⟩
    cases lead with
    | negSucc n => exact List.cons_ne_nil _ _
    | ofNat n => exact List.append_ne_nil_of_right_ne_nil _ (List.cons_ne_nil _ _)
  unfold renderFloat
  dsimp only
  split
  · exact List.cons_ne_nil _ _
  · split
    · exact (htext _ _).1
    · exact (htext _ _).2

/-! ## The first character of a value -/

/-- A character that a value may begin with. -/
def isOpening (c : Char) : Bool := isNumeric c || ['n', 't', 'f', '"', '[', '\x7b'].contains c

theorem isOpening_of_isNumeric {c : Char} (h : isNumeric c = true) : isOpening c = true := by
  unfold isOpening; rw [h]; rfl

theorem ne_of_isNumeric {c d : Char} (h : isNumeric c = true) (hd : isNumeric d = false) :
    c ≠ d := by
  rintro rfl; rw [h] at hd; cases hd

theorem ne_of_isOpening {c d : Char} (h : isOpening c = true) (hd : isOpening d = false) :
    c ≠ d := by
  rintro rfl; rw [h] at hd; cases hd

/-- A text of numeric characters that is not empty begins like a value. -/
theorem isOpening_of_isNumeric_cons {cs : List Char} (h : IsNumeric cs) (hne : cs ≠ []) :
    ∃ c rest, cs = c :: rest ∧ isOpening c = true := by
  obtain ⟨c, rest, rfl⟩ := List.exists_cons_of_ne_nil hne
  exact ⟨c, rest, rfl, isOpening_of_isNumeric (h c List.mem_cons_self)⟩

/-- Every value begins with one of a few characters. -/
theorem renderValue_cons (v : Json) :
    ∃ c cs, renderValue v = c :: cs ∧ isOpening c = true := by
  cases v with
  | null => exact ⟨_, _, rfl, rfl⟩
  | bool b => cases b <;> exact ⟨_, _, rfl, rfl⟩
  | int n => exact isOpening_of_isNumeric_cons (isNumeric_renderInt n) (renderInt_ne_nil n)
  | float x => exact isOpening_of_isNumeric_cons (isNumeric_renderFloat x) (renderFloat_ne_nil x)
  | string s => exact ⟨_, _, rfl, rfl⟩
  | array items => exact ⟨_, _, rfl, rfl⟩
  | object members => exact ⟨_, _, rfl, rfl⟩

/-! ## Control characters -/

/-- The text has no control character. -/
def NoControl (cs : List Char) : Prop := ∀ c ∈ cs, 0x20 ≤ c.toNat

theorem noControl_of_all {cs : List Char} (h : (cs.all fun c => decide (0x20 ≤ c.toNat)) = true) :
    NoControl cs :=
  fun c hc => of_decide_eq_true (List.all_eq_true.mp h c hc)

theorem noControl_append {a b : List Char} (ha : NoControl a) (hb : NoControl b) :
    NoControl (a ++ b) :=
  List.forall_mem_append.mpr ⟨ha, hb⟩

theorem noControl_cons {c : Char} (hc : 0x20 ≤ c.toNat) {cs : List Char} (hcs : NoControl cs) :
    NoControl (c :: cs) :=
  List.forall_mem_cons.mpr ⟨hc, hcs⟩

theorem noControl_of_isNumeric {cs : List Char} (h : IsNumeric cs) : NoControl cs := by
  intro c hc
  have hnumeric := h c hc
  unfold isNumeric at hnumeric
  rcases (Bool.or_eq_true _ _).mp hnumeric with hdigit | hmark
  · have hle := (Char.isDigit_iff_toNat.mp hdigit).1
    exact Nat.le_trans (by decide) hle
  · have hmarks : NoControl ['-', '+', '.', 'e'] := noControl_of_all rfl
    exact hmarks c (List.contains_iff_mem.mp hmark)

theorem noControl_hexDigits (n : ℕ) (h : n < 32) : NoControl (hexDigits n 4) := by
  have hall : ∀ n < 32, ((hexDigits n 4).all fun c => decide (0x20 ≤ c.toNat)) = true := by
    decide +kernel
  exact noControl_of_all (hall n h)

theorem noControl_escapeChar (c : Char) : NoControl (escapeChar c) := by
  unfold escapeChar
  split
  · exact noControl_of_all rfl
  · exact noControl_of_all rfl
  · exact noControl_of_all rfl
  · exact noControl_of_all rfl
  · exact noControl_of_all rfl
  · exact noControl_of_all rfl
  · exact noControl_of_all rfl
  · by_cases h : c.toNat < 0x20
    · rw [if_pos h]
      exact noControl_cons (by decide) (noControl_cons (by decide) (noControl_hexDigits _ h))
    · rw [if_neg h]
      exact noControl_cons (Nat.le_of_not_lt h) (List.forall_mem_nil _)

theorem noControl_renderString (s : String) : NoControl (renderString s) := by
  refine noControl_append (noControl_cons (by decide) ?_) (noControl_of_all rfl)
  intro c hc
  obtain ⟨c', -, hc⟩ := List.mem_flatMap.mp hc
  exact noControl_escapeChar c' c hc

mutual

/-- Control characters are escaped. -/
theorem noControl_renderValue : ∀ v : Json, NoControl (renderValue v)
  | .null => noControl_of_all rfl
  | .bool true => noControl_of_all rfl
  | .bool false => noControl_of_all rfl
  | .int n => noControl_of_isNumeric (isNumeric_renderInt n)
  | .float x => noControl_of_isNumeric (isNumeric_renderFloat x)
  | .string s => noControl_renderString s
  | .array items => noControl_cons (by decide) (noControl_renderItems items)
  | .object members => noControl_cons (by decide) (noControl_renderMembers members)

theorem noControl_renderItems : ∀ items : List Json, NoControl (renderItems items)
  | [] => noControl_of_all rfl
  | [v] => noControl_append (noControl_renderValue v) (noControl_of_all rfl)
  | v :: w :: items =>
    noControl_append (noControl_renderValue v)
      (noControl_cons (by decide) (noControl_renderItems (w :: items)))

theorem noControl_renderMembers :
    ∀ members : List (String × Json), NoControl (renderMembers members)
  | [] => noControl_of_all rfl
  | [(name, v)] =>
    noControl_append (noControl_append (noControl_renderString name)
      (noControl_cons (by decide) (noControl_renderValue v))) (noControl_of_all rfl)
  | (name, v) :: m :: members =>
    noControl_append (noControl_append (noControl_renderString name)
      (noControl_cons (by decide) (noControl_renderValue v)))
      (noControl_cons (by decide) (noControl_renderMembers (m :: members)))

end

end JsonText

/-- No value is written as an empty text. -/
theorem Json.isEmpty_render (v : Json) : v.render.isEmpty = false := by
  obtain ⟨c, cs, hv, -⟩ := JsonText.renderValue_cons v
  have hne : v.render ≠ "" := by
    intro h
    have hnil := congrArg String.toList h
    rw [Json.render, String.toList_ofList, hv] at hnil
    cases hnil
  simpa using hne

end Detour
