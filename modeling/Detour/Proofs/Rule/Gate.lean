import Detour.Proofs.Rule.Attribute
import Detour.Proofs.Rule.ConditionText
import Detour.Proofs.Rule.FirstMatch
import Detour.Proofs.Store.Change

/-!
# Rules behind a condition

A rule that is given a condition decides about a request only if the condition is a text, its first
line of the right form has a pattern that compiles, the request has the attribute that the line
names, and the two match. Whatever else the condition is, the rule is passed over
(`condition_fails_closed`).
-/

namespace Detour

/-- The values that stand for no condition. Zero may have either sign. -/
inductive Json.Falsy : Json → Prop
  | null : Falsy .null
  | bool : Falsy (.bool false)
  | int : Falsy (.int 0)
  | float {x : Binary64} (h : x.mantissa = 0) : Falsy (.float x)
  | string : Falsy (.string "")

theorem Json.falsy_iff {value : Json} : value.Falsy ↔ value.isTruthy = false := by
  constructor
  · intro h
    cases h with
    | float h => simp [isTruthy, Binary64.isZero, h]
    | _ => rfl
  · intro h
    cases value with
    | null => exact .null
    | bool b =>
      obtain rfl : b = false := h
      exact .bool
    | int n =>
      obtain rfl : n = 0 := by simpa [isTruthy] using h
      exact .int
    | float x => exact .float (by simpa [isTruthy, Binary64.isZero] using h)
    | string s =>
      obtain rfl : s = "" := by simpa [isTruthy] using h
      exact .string
    | array items => cases h
    | object members => cases h

/-- The request passes the condition that the value gives: the first line of its text that has the
form of a condition names an attribute, in whatever case, that the request has and that its pattern
matches, with anchors at the ends of lines. -/
def PassesBy (value : Json) (v : RequestView) : Prop :=
  ∃ (text : String) (line : ConditionLine) (pattern : Pattern) (found : String),
    value = .string text ∧ line.IsFirstIn text.toList ∧
      Pattern.compile ("(?m)" ++ String.ofList line.pattern) = .ok pattern ∧
      v.HasAttribute (String.ofList (line.subject.map Char.toLower)) found ∧
      pattern.isMatch found.toList = true

variable {v : RequestView}

/-! ## Conditions -/

namespace Condition

theorem holds_matching_iff {text name : String} {pattern : Pattern} :
    (matching text name pattern).holds v = true ↔
      ∃ found, v.HasAttribute name found ∧ pattern.isMatch found.toList = true := by
  simp [holds, Option.any_eq_true, RequestView.hasAttribute_iff]

theorem holds_parse_iff {text : String} (h : text ≠ "") :
    (parse text).holds v = true ↔ PassesBy (.string text) v := by
  have hline : ∀ line : ConditionLine, line.IsFirstIn text.toList ↔
      ConditionLine.ofText? text.toList = some line := fun _ => ConditionLine.isFirstIn_iff
  unfold parse PassesBy
  simp only [← ConditionLine.compile_eq, ← ConditionLine.name_eq]
  rw [if_neg (by simpa using h)]
  cases hfirst : ConditionLine.ofText? text.toList with
  | none => simp [holds, hline, hfirst]
  | some line =>
    cases hpattern : line.compile with
    | error e => simp [holds, hline, hfirst, hpattern]
    | ok pattern => simp [holds_matching_iff, hline, hfirst, hpattern]

end Condition

namespace Rule

theorem holds_conditionOf_iff {value : Json} (h : ¬ value.Falsy) :
    (conditionOf (some value)).holds v = true ↔ PassesBy value v := by
  have htruthy : value.isTruthy = true := by simpa [Json.falsy_iff] using h
  -- no request passes by a value that is no text
  have hother : (∀ s, value ≠ .string s) → conditionOf (some value) = .malformed value.render →
      ((conditionOf (some value)).holds v = true ↔ PassesBy value v) := by
    intro hvalue hcondition
    simp [hcondition, Condition.holds, PassesBy, hvalue]
  cases value with
  | string s => exact Condition.holds_parse_iff fun hs => h (hs ▸ .string)
  | null => exact absurd .null h
  | bool b => exact hother (by simp) (by simp [conditionOf, htruthy])
  | int n => exact hother (by simp) (by simp [conditionOf, htruthy])
  | float x => exact hother (by simp) (by simp [conditionOf, htruthy])
  | array items => exact hother (by simp) (by simp [conditionOf, htruthy])
  | object members => exact hother (by simp) (by simp [conditionOf, htruthy])

theorem conditionOf_of_falsy {value : Json} (h : value.Falsy) :
    conditionOf (some value) = .always := by
  have hfalse := Json.falsy_iff.mp h
  cases h with
  | string => exact Condition.parse_of_isEmpty rfl
  | _ => simp [conditionOf, hfalse]

end Rule

/-! ## The verdict with and without a rule -/

theorem verdict_of_passed_over {before later : List Rule} {r : Rule}
    (h : ¬ ((∀ r' ∈ before, r'.applies v = false) ∧ r.applies v = true)) :
    verdict (before ++ r :: later) v = verdict (before ++ later) v := by
  by_cases hbefore : ∀ r' ∈ before, r'.applies v = false
  · have hr : r.applies v = false := by simpa using fun hr => h ⟨hbefore, hr⟩
    apply verdict_eq_of_filter_eq
    simp [List.filter_append, hr]
  · have hdecided : dispatch before v ≠ .pass := by
      rwa [Ne, dispatch_eq_pass_iff, firstApplicable_eq_none_iff]
    rw [verdict_append, verdict_append, if_neg hdecided, if_neg hdecided]

theorem verdict_of_reached {before : List Rule} {r : Rule}
    (hbefore : ∀ r' ∈ before, r'.applies v = false) (hr : r.applies v = true) (later : List Rule) :
    verdict (before ++ r :: later) v = r.verdict v := by
  have hpass : dispatch before v = .pass := by
    rwa [dispatch_eq_pass_iff, firstApplicable_eq_none_iff]
  rw [verdict_append, if_pos hpass]
  exact verdict_of_first (List.find?_cons_of_pos hr)

/-! ## The gate -/

theorem Store.accepted_insert_ok {raw : RawRule} {r : Rule} (h : Rule.compile raw = .ok r)
    (a b : List RawRule) : accepted (a ++ raw :: b) = accepted a ++ r :: accepted b := by
  rw [List.append_cons, accepted_append, accepted_concat_ok h, List.append_assoc,
    List.singleton_append]

/-- **Gate.** A rule that is given a condition decides about a request, and is the one whose match
is reported, just if no rule before it applies, the request passes by the condition, and the address
matches; in every other case outcome and report are those of the rules without it. It is kept in the
store all the same. A rule that is given no condition, or one that stands for none, is the rule
without condition. -/
theorem condition_fails_closed {raw : RawRule} {r : Rule} (hr : Rule.compile raw = .ok r) :
    (∀ value, raw.condition = some value → ¬ value.Falsy → ∀ v : RequestView,
      (∀ rules, firstApplicable rules v = some r →
        PassesBy value v ∧ r.pattern.isMatch v.url.toList = true) ∧
      ∀ before later : List Rule,
        ((∀ r' ∈ before, r'.applies v = false) ∧ PassesBy value v ∧
            r.pattern.isMatch v.url.toList = true →
          verdict (before ++ r :: later) v = r.verdict v) ∧
        (¬ ((∀ r' ∈ before, r'.applies v = false) ∧ PassesBy value v ∧
            r.pattern.isMatch v.url.toList = true) →
          verdict (before ++ r :: later) v = verdict (before ++ later) v)) ∧
    ((∀ s : Store, s.register raw = (true, .install (s.rules ++ [r]))) ∧
      ∀ a b : List RawRule,
        Store.accepted (a ++ raw :: b) = Store.accepted a ++ r :: Store.accepted b) ∧
    ((∀ value, raw.condition = some value → value.Falsy) →
      Rule.compile { raw with condition := none } = .ok r ∧
      ∀ v : RequestView, r.applies v = r.pattern.isMatch v.url.toList) := by
  obtain ⟨hsource, htarget, hpattern, hcondition, hredirect⟩ := Rule.compile_eq_ok_iff.mp hr
  refine ⟨?_, ⟨Store.register_ok hr, Store.accepted_insert_ok hr⟩, ?_⟩
  · intro value hvalue hfalsy v
    have happlies : r.applies v = true ↔
        PassesBy value v ∧ r.pattern.isMatch v.url.toList = true := by
      rw [Rule.applies_iff, hcondition, hvalue, Rule.holds_conditionOf_iff hfalsy]
    refine ⟨fun rules hfirst => ?_, fun before later => ⟨?_, ?_⟩⟩
    · exact happlies.mp (applies_of_firstApplicable hfirst)
    · rintro ⟨hbefore, hpasses⟩
      exact verdict_of_reached hbefore (happlies.mpr hpasses) later
    · intro hnot
      rw [← happlies] at hnot
      exact verdict_of_passed_over hnot
  · intro hfalsy
    have halways : r.condition = .always := by
      rw [hcondition]
      cases hvalue : raw.condition with
      | none => rfl
      | some value => exact Rule.conditionOf_of_falsy (hfalsy value hvalue)
    refine ⟨Rule.compile_eq_ok_iff.mpr ⟨hsource, htarget, hpattern, halways, hredirect⟩, ?_⟩
    intro v
    simp [Rule.applies, halways, Condition.holds]

/-! ## A rule for one method -/

/-- A rule whose condition stands on the second line of its text. -/
def postOnly : RawRule :=
  ⟨some (.string "posts\n%\x7bREQUEST_METHOD\x7d ^POST$"), some (.string "^/a$"),
    some (.string "/b"), none⟩

def viewOfA (method : String) : RequestView := RequestParts.view ⟨method, "/a", []⟩

theorem postOnly_verdicts : ∃ r, Rule.compile postOnly = .ok r ∧
    verdict [r] (viewOfA "POST") = r.verdict (viewOfA "POST") ∧
    verdict [r] (viewOfA "GET") = (.pass, []) := by
  have heval : ((Rule.compile postOnly).toOption.any fun r =>
      r.applies (viewOfA "POST") && !r.condition.holds (viewOfA "GET")) = true := by decide +kernel
  cases hr : Rule.compile postOnly with
  | error e => rw [hr] at heval; cases heval
  | ok r =>
    rw [hr] at heval
    simp only [Except.toOption, Option.any_some, Bool.and_eq_true, Bool.not_eq_true'] at heval
    obtain ⟨hpost, hget⟩ := heval
    have hfalsy : ¬ (Json.string "posts\n%\x7bREQUEST_METHOD\x7d ^POST$").Falsy := by
      rw [Json.falsy_iff]
      decide
    have hcondition := (Rule.compile_eq_ok_iff.mp hr).2.2.2.1
    rw [Rule.applies_iff, hcondition] at hpost
    rw [hcondition] at hget
    have hgate := fun v => (condition_fails_closed hr).1 _ rfl hfalsy v
    refine ⟨r, rfl, ?_, ?_⟩
    · exact ((hgate _).2 [] []).1 ⟨List.forall_mem_nil _,
        (Rule.holds_conditionOf_iff hfalsy).mp hpost.1, hpost.2⟩
    · refine ((hgate _).2 [] []).2 fun hpasses => ?_
      have hholds := (Rule.holds_conditionOf_iff hfalsy).mpr hpasses.2.1
      exact absurd (hget.symm.trans hholds) Bool.false_ne_true

end Detour
