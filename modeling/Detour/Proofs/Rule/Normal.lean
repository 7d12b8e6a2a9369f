import Detour.Proofs.Json.Character
import Detour.Rule.Basic

/-!
# The normal form of a rule

A rule that was compiled from values of any type is compiled again, and unchanged, from texts and a
number (`Rule.compile_toRaw`). The point is a condition that was given by a value other than a
string: its text never reads as a condition, whatever strings the value contains
(`Condition.parse_render`).
-/

namespace Detour

/-! ## The text of a value is no condition -/

theorem splitLines_of_noControl {cs : List Char} (h : JsonText.NoControl cs) :
    splitLines cs = [cs] := by
  induction cs with
  | nil => rfl
  | cons c cs ih =>
    obtain ⟨hc, hcs⟩ := List.forall_mem_cons.mp h
    unfold splitLines
    split
    · rename_i heq; cases heq
    · rename_i heq
      rw [(List.cons.inj heq).1] at hc
      exact absurd hc (by decide)
    · rename_i heq
      rw [(List.cons.inj heq).1] at hc
      exact absurd hc (by decide)
    · rename_i heq
      rw [(List.cons.inj heq).1] at hc
      exact absurd hc (by decide)
    · rename_i heq
      obtain ⟨rfl, rfl⟩ := List.cons.inj heq
      rw [ih hcs]

theorem ConditionLine.head?_opening : opening.head? = some '%' := by decide +kernel

/-- A line that begins like a value is no condition. -/
theorem ConditionLine.ofLine?_of_isOpening {c : Char} (h : JsonText.isOpening c = true)
    (cs : List Char) : ofLine? (c :: cs) = none := by
  unfold ofLine?
  rw [if_neg]
  intro hprefix
  obtain ⟨rest, heq⟩ := List.isPrefixOf_iff_prefix.mp hprefix
  have hhead := congrArg List.head? heq
  rw [List.head?_append, head?_opening] at hhead
  exact JsonText.ne_of_isOpening h (by decide) (Option.some.inj hhead).symm

theorem ConditionLine.ofText?_renderValue (v : Json) :
    ofText? (JsonText.renderValue v) = none := by
  obtain ⟨c, cs, hv, hc⟩ := JsonText.renderValue_cons v
  unfold ofText?
  rw [splitLines_of_noControl (JsonText.noControl_renderValue v), hv, List.findSome?_singleton,
    ofLine?_of_isOpening hc]

/-- The text of a value is kept and never holds. -/
theorem Condition.parse_render (v : Json) : parse v.render = .malformed v.render := by
  unfold parse
  rw [v.isEmpty_render, if_neg Bool.false_ne_true, Json.render, String.toList_ofList,
    ConditionLine.ofText?_renderValue]

/-! ## Conditions -/

namespace Condition

theorem parse_of_isEmpty {text : String} (h : text.isEmpty = true) : parse text = .always := by
  unfold parse; rw [if_pos h]

/-- A text that is not empty is kept, as a condition or not. -/
theorem text?_parse {text : String} (h : text.isEmpty = false) :
    (parse text).text? = some text := by
  unfold parse
  rw [h, if_neg Bool.false_ne_true]
  split
  · rfl
  · split <;> rfl

end Condition

/-- The value that a condition is given by, as a text. -/
def Condition.toJson? (c : Condition) : Option Json := c.text?.map .string

theorem Rule.conditionOf_parse (text : String) :
    conditionOf (Condition.parse text).toJson? = Condition.parse text := by
  cases h : text.isEmpty with
  | true => rw [Condition.parse_of_isEmpty h]; rfl
  | false => rw [Condition.toJson?, Condition.text?_parse h]; rfl

/-- A condition is given back by its text. -/
theorem Rule.conditionOf_toJson? (v : Option Json) :
    conditionOf (conditionOf v).toJson? = conditionOf v := by
  have hother : ∀ v : Json, conditionOf (if v.isTruthy then Condition.malformed v.render
      else .always).toJson? = if v.isTruthy then Condition.malformed v.render else .always := by
    intro v
    split
    · exact Condition.parse_render v
    · rfl
  cases v with
  | none => rfl
  | some v =>
    cases v with
    | string text => exact conditionOf_parse text
    | null => rfl
    -- any other value is kept as its text, and reading that text keeps it again
    | bool b => exact hother (.bool b)
    | int n => exact hother (.int n)
    | float x => exact hother (.float x)
    | array items => exact hother (.array items)
    | object members => exact hother (.object members)

/-! ## Redirects -/

namespace Redirect

theorem isStatus_of_status? {v : Option Json} {n : ℕ} (h : status? v = some n) :
    isStatus n = true := by
  cases v with
  | none => cases h
  | some v =>
    rw [status?] at h
    split at h
    · cases hcode : (code? v).filter isStatus with
      | none =>
        rw [hcode] at h
        cases h
        rfl
      | some m =>
        rw [hcode] at h
        cases h
        exact (Option.filter_eq_some_iff.mp hcode).2
    · cases h

theorem status?_nat {n : ℕ} (h : isStatus n = true) : status? (some (.nat n)) = some n := by
  have htruthy : (Json.nat n).isTruthy = true := by
    unfold isStatus at h
    simp only [Bool.and_eq_true, decide_eq_true_eq] at h
    simp only [Json.nat, Json.isTruthy, decide_eq_true_eq]
    omega
  have hcode : code? (Json.nat n) = some n := by
    simp [Json.nat, code?]
  rw [status?, if_pos htruthy, hcode, Option.filter_some, if_pos h]
  rfl

/-- A status is given back by its number. -/
theorem status?_map_nat (v : Option Json) : status? ((status? v).map .nat) = status? v := by
  cases h : status? v with
  | none => rfl
  | some n => exact status?_nat (isStatus_of_status? h)

end Redirect

/-! ## Rules -/

theorem Pattern.source_of_ofExpr {source : String} {e : Expr} {p : Pattern}
    (h : ofExpr source e = .ok p) : p.source = source := by
  unfold ofExpr at h
  split at h
  · cases h; rfl
  · cases h

theorem Pattern.source_of_compile {source : String} {p : Pattern}
    (h : compile source = .ok p) : p.source = source := by
  simp only [compile, bind, Except.bind] at h
  split at h
  · cases h
  · split at h
    · cases h
    · exact source_of_ofExpr h

/-- What is computed of a result shows that there is one. -/
theorem exists_ok_of_any {ε α : Type} {e : Except ε α} {p : α → Bool}
    (h : e.toOption.any p = true) : ∃ a, e = .ok a ∧ p a = true := by
  cases e with
  | error _ => cases h
  | ok a => exact ⟨a, rfl, h⟩

namespace Rule

/-- The rule is the compiled form of some raw rule. -/
def IsCompiled (r : Rule) : Prop := ∃ raw, compile raw = .ok r

/-- The raw rule that stands for a rule. -/
def toRaw (r : Rule) : RawRule :=
  ⟨r.condition.toJson?, some (.string r.pattern.source), some (.string r.target),
    r.redirect.map .nat⟩

theorem nonEmpty?_string {v : Option Json} {s : String} (h : nonEmpty? v = some s) :
    nonEmpty? (some (.string s)) = some s := by
  unfold nonEmpty? at h
  split at h
  · split at h
    · cases h
    · rename_i hne
      cases h
      exact if_neg hne
  · cases h

/-- The parts of a rule that was accepted. -/
theorem compile_eq_ok_iff {raw : RawRule} {r : Rule} :
    compile raw = .ok r ↔
      nonEmpty? raw.source = some r.pattern.source ∧ nonEmpty? raw.target = some r.target ∧
        Pattern.compile r.pattern.source = .ok r.pattern ∧
        r.condition = conditionOf raw.condition ∧ r.redirect = Redirect.status? raw.redirect := by
  unfold compile
  cases hsource : nonEmpty? raw.source with
  | none => simp
  | some source =>
    cases htarget : nonEmpty? raw.target with
    | none => simp
    | some target =>
      dsimp only
      constructor
      · intro h
        cases hpattern : Pattern.compile source with
        | error e => rw [hpattern] at h; cases h
        | ok p =>
          rw [hpattern] at h
          cases h
          have hp := Pattern.source_of_compile hpattern
          refine ⟨congrArg some hp.symm, rfl, ?_, rfl, rfl⟩
          dsimp only
          rw [hp, hpattern]
      · rintro ⟨hs, ht, hpattern, hcondition, hredirect⟩
        cases hs
        cases ht
        rw [hpattern, ← hcondition, ← hredirect]

theorem IsCompiled.pattern {r : Rule} (h : r.IsCompiled) :
    Pattern.compile r.pattern.source = .ok r.pattern := by
  obtain ⟨raw, hraw⟩ := h
  exact (compile_eq_ok_iff.mp hraw).2.2.1

/-- **Normal form.** The raw rule that stands for an accepted rule is compiled to the same rule. -/
theorem compile_toRaw {raw : RawRule} {r : Rule} (h : compile raw = .ok r) :
    compile r.toRaw = .ok r := by
  obtain ⟨hsource, htarget, hpattern, hcondition, hredirect⟩ := compile_eq_ok_iff.mp h
  refine compile_eq_ok_iff.mpr ⟨?_, ?_, hpattern, ?_, ?_⟩
  · exact nonEmpty?_string hsource
  · exact nonEmpty?_string htarget
  · show r.condition = conditionOf r.condition.toJson?
    rw [hcondition, conditionOf_toJson?]
  · show r.redirect = Redirect.status? (r.redirect.map .nat)
    rw [hredirect, Redirect.status?_map_nat]

end Rule

end Detour
