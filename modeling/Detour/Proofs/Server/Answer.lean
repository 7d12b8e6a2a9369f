import Detour.Http.Server
import Detour.Proofs.Rule.FirstMatch

/-!
# Answers of an echoing server

What a server that echoes requests owes to a request is a matter of the request and of the rules in
force (`Owed`): the first rule that applies redirects it or changes its address, where the target
may stand in a header or in an address; otherwise it is echoed as it came. The server answers that
and nothing else (`owed_iff`).
-/

namespace Detour

/-! ## What is owed -/

/-- Condition and pattern of the rule hold for the request. -/
def Rule.AppliesTo (r : Rule) (v : RequestView) : Prop :=
  r.condition.holds v = true ∧ r.pattern.isMatch v.url.toList = true

/-- The rule is the first one that applies to the request. -/
def Decides (rules : List Rule) (v : RequestView) (r : Rule) : Prop :=
  ∃ before later, rules = before ++ r :: later ∧ (∀ r' ∈ before, ¬ r'.AppliesTo v) ∧ r.AppliesTo v

/-- The echo of a request: its method and its address, and the address before a rule changed it. The
answer to `HEAD` or `CONNECT` has no body. -/
def echo (method : String) (uri : Uri) (before : Option Uri) : Response :=
  let text := Json.ofMembers ([("method", .string method), ("url", .string uri.display)] ++
    (before.map fun uri => ("rewritten_from", .string uri.display)).toList)
  (Response.json 200 text).forMethod method

/-- The answer that is owed to a request under the given rules. -/
inductive Owed (rules : List Rule) (r : Request) : Response → Prop
  /-- No rule applies. -/
  | passed (h : ∀ rule ∈ rules, ¬ rule.AppliesTo r.view) : Owed rules r (echo r.method r.uri none)
  /-- The rule redirects to its target. -/
  | redirected {rule : Rule} {status : ℕ} (h : Decides rules r.view rule)
      (hstatus : rule.redirect = some status)
      (htarget : isFieldValue (rule.targetFor r.view) = true) :
      Owed rules r ⟨status, [("location", rule.targetFor r.view)], ""⟩
  /-- The target of the redirect cannot stand in a header. -/
  | notRedirected {rule : Rule} {status : ℕ} (h : Decides rules r.view rule)
      (hstatus : rule.redirect = some status)
      (htarget : isFieldValue (rule.targetFor r.view) = false) :
      Owed rules r (echo r.method r.uri none)
  /-- The request goes on under an address with the target in the place of path and query. -/
  | rerouted {rule : Rule} {target : PathAndQuery} {uri : Uri} (h : Decides rules r.view rule)
      (hstatus : rule.redirect = none)
      (htarget : PathAndQuery.parse? (rule.targetFor r.view) = some target)
      (huri : r.uri.withTarget? target = some uri) :
      Owed rules r (echo r.method uri (some r.uri))
  /-- The target cannot stand in the address. -/
  | notRerouted {rule : Rule} (h : Decides rules r.view rule) (hstatus : rule.redirect = none)
      (htarget : ∀ target, PathAndQuery.parse? (rule.targetFor r.view) = some target →
        r.uri.withTarget? target = none) :
      Owed rules r (echo r.method r.uri none)

/-! ## The first rule that applies -/

theorem Rule.applies_iff_appliesTo {r : Rule} {v : RequestView} :
    r.applies v = true ↔ r.AppliesTo v := r.applies_iff

theorem firstApplicable_eq_some_iff {rules : List Rule} {v : RequestView} {r : Rule} :
    firstApplicable rules v = some r ↔ Decides rules v r := by
  unfold firstApplicable Decides
  rw [List.find?_eq_some_iff_append]
  constructor
  · rintro ⟨happ, before, later, hrules, hbefore⟩
    refine ⟨before, later, hrules, fun r' hr' h => ?_, Rule.applies_iff_appliesTo.mp happ⟩
    have hnot := hbefore r' hr'
    rw [Rule.applies_iff_appliesTo.mpr h] at hnot
    cases hnot
  · rintro ⟨before, later, hrules, hbefore, happ⟩
    refine ⟨Rule.applies_iff_appliesTo.mpr happ, before, later, hrules, fun r' hr' => ?_⟩
    have hnot := mt Rule.applies_iff_appliesTo.mp (hbefore r' hr')
    rw [Bool.not_eq_true] at hnot
    rw [hnot]
    rfl

theorem dispatch_of_decides {rules : List Rule} {v : RequestView} {r : Rule}
    (h : Decides rules v r) : dispatch rules v = r.outcome v := by
  unfold dispatch; rw [firstApplicable_eq_some_iff.mpr h]

theorem dispatch_of_not_appliesTo {rules : List Rule} {v : RequestView}
    (h : ∀ r ∈ rules, ¬ r.AppliesTo v) : dispatch rules v = .pass := by
  rw [dispatch_eq_pass_iff, firstApplicable_eq_none_iff]
  intro r hr
  rw [← Bool.not_eq_true, Rule.applies_iff_appliesTo]
  exact h r hr

/-! ## What is answered -/

/-- The answer to a request with the given outcome, if `h` stands behind the rules. -/
def Request.answer (r : Request) (h : Handler) (o : Outcome) : Response :=
  match (r.resolve o).1 with
  | .answer response => response
  | .forward r => h.respond r

theorem Server.response_serve (s : Server) (r : Request) :
    (s.serve r).response = r.answer s.handler (dispatch s.store.rules r.view) := rfl

theorem respond_echo (r : Request) :
    Handler.echo.respond r = echo r.method r.uri r.reroutedFrom := by
  unfold Handler.respond echoOf echo
  cases r.reroutedFrom <;> rfl

section Answers

variable {r : Request} (hr : r.reroutedFrom = none)

include hr in
theorem answer_pass : r.answer .echo .pass = echo r.method r.uri none := by
  show Handler.echo.respond r = _
  rw [respond_echo, hr]

theorem answer_redirect {location : String} (h : isFieldValue location = true) (status : ℕ) :
    r.answer .echo (.redirect status location) = ⟨status, [("location", location)], ""⟩ := by
  unfold Request.answer Request.resolve
  dsimp only
  rw [if_pos h]
  rfl

include hr in
theorem answer_bad_location {location : String} (h : isFieldValue location = false) (status : ℕ) :
    r.answer .echo (.redirect status location) = echo r.method r.uri none := by
  unfold Request.answer Request.resolve
  dsimp only
  rw [h, if_neg Bool.false_ne_true]
  show Handler.echo.respond r = _
  rw [respond_echo, hr]

theorem answer_reroute {text : String} {target : PathAndQuery} {uri : Uri}
    (htarget : PathAndQuery.parse? text = some target)
    (huri : r.uri.withTarget? target = some uri) :
    r.answer .echo (.reroute text) = echo r.method uri (some r.uri) := by
  have hrerouted : r.rerouted? text = some { r with uri := uri, reroutedFrom := some r.uri } := by
    unfold Request.rerouted?
    rw [htarget]
    show ((r.uri.withTarget? target).bind _) = _
    rw [huri]
    rfl
  unfold Request.answer Request.resolve
  dsimp only
  rw [hrerouted]
  exact respond_echo _

include hr in
theorem answer_bad_target {text : String}
    (h : ∀ target, PathAndQuery.parse? text = some target → r.uri.withTarget? target = none) :
    r.answer .echo (.reroute text) = echo r.method r.uri none := by
  have hrerouted : r.rerouted? text = none := by
    unfold Request.rerouted?
    cases htarget : PathAndQuery.parse? text with
    | none => rfl
    | some target =>
      show ((r.uri.withTarget? target).bind _) = _
      rw [h target htarget]
      rfl
  unfold Request.answer Request.resolve
  dsimp only
  rw [hrerouted]
  show Handler.echo.respond r = _
  rw [respond_echo, hr]

end Answers

/-- **Answers.** The answer to an incoming request is owed to it, and no other one is. -/
theorem owed_iff {rules : List Rule} {r : Request} (hr : r.reroutedFrom = none)
    {response : Response} :
    Owed rules r response ↔ response = r.answer .echo (dispatch rules r.view) := by
  constructor
  · intro h
    cases h with
    | passed h => rw [dispatch_of_not_appliesTo h, answer_pass hr]
    | redirected h hstatus htarget =>
      rw [dispatch_of_decides h, Rule.outcome, hstatus, answer_redirect htarget]
    | notRedirected h hstatus htarget =>
      rw [dispatch_of_decides h, Rule.outcome, hstatus, answer_bad_location hr htarget]
    | rerouted h hstatus htarget huri =>
      rw [dispatch_of_decides h, Rule.outcome, hstatus, answer_reroute htarget huri]
    | notRerouted h hstatus htarget =>
      rw [dispatch_of_decides h, Rule.outcome, hstatus, answer_bad_target hr htarget]
  · rintro rfl
    cases hfirst : firstApplicable rules r.view with
    | none =>
      have hnone : ∀ rule ∈ rules, ¬ rule.AppliesTo r.view := by
        intro rule hrule
        rw [← Rule.applies_iff_appliesTo, Bool.not_eq_true]
        exact firstApplicable_eq_none_iff.mp hfirst rule hrule
      rw [dispatch_of_not_appliesTo hnone, answer_pass hr]
      exact .passed hnone
    | some rule =>
      have hrule := firstApplicable_eq_some_iff.mp hfirst
      rw [dispatch_of_decides hrule, Rule.outcome]
      cases hstatus : rule.redirect with
      | some status =>
        cases htarget : isFieldValue (rule.targetFor r.view) with
        | true => rw [answer_redirect htarget]; exact .redirected hrule hstatus htarget
        | false => rw [answer_bad_location hr htarget]; exact .notRedirected hrule hstatus htarget
      | none =>
        by_cases hbad : ∀ target, PathAndQuery.parse? (rule.targetFor r.view) = some target →
            r.uri.withTarget? target = none
        · rw [answer_bad_target hr hbad]
          exact .notRerouted hrule hstatus hbad
        · simp only [not_forall] at hbad
          obtain ⟨target, htarget, huri⟩ := hbad
          obtain ⟨uri, huri⟩ := Option.ne_none_iff_exists'.mp huri
          rw [answer_reroute htarget huri]
          exact .rerouted hrule hstatus htarget huri

end Detour
