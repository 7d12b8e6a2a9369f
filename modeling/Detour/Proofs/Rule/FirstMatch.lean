import Detour.Proofs.Pattern.Span
import Detour.Proofs.Rule.Normal
import Detour.Rule.Log
import Mathlib.Data.List.Basic

/-!
# Dispatch by the first rule that applies

The verdict on a request, its outcome together with what is reported, is that of the first rule
whose condition and pattern hold (`verdict_of_first`). It is a function of the rules that apply
alone (`verdict_eq_of_filter_eq`), and of two lists one after the other the first decides unless it
lets the request pass (`verdict_append`).
-/

namespace Detour

variable {rules : List Rule} {v : RequestView}

/-- What the rules make of a request, and what they report of it. -/
def verdict (rules : List Rule) (v : RequestView) : Outcome × List Report :=
  (dispatch rules v, matchReports rules v)

namespace Rule

/-- What a rule makes of a request that it applies to, and its report. -/
def verdict (r : Rule) (v : RequestView) : Outcome × List Report :=
  (r.outcome v, [.matched r v.url (r.targetFor v)])

theorem applies_iff {r : Rule} :
    r.applies v = true ↔ r.condition.holds v = true ∧ r.pattern.isMatch v.url.toList = true := by
  unfold applies; rw [Bool.and_eq_true]

theorem outcome_ne_pass (r : Rule) (v : RequestView) : r.outcome v ≠ .pass := by
  unfold outcome
  cases r.redirect with
  | none => intro h; cases h
  | some status => intro h; cases h

end Rule

/-! ## The target is made from a match -/

namespace Template

theorem replaceFirst_of_find? {p : Pattern} {input : List Char} {found : Match}
    (h : p.find? input = some found) (template : List Char) :
    replaceFirst p input template =
      found.whole.before input ++ expand ⟨p, found, input⟩ template ++ found.whole.after input := by
  unfold replaceFirst; rw [h]

end Template

/-- The match lies within the text. -/
def Match.LiesIn (found : Match) (text : List Char) : Prop :=
  found.whole.start ≤ found.whole.stop ∧ found.whole.stop ≤ text.length ∧
    found.whole.before text ++ found.whole.slice text ++ found.whole.after text = text

theorem Rule.IsCompiled.match_liesIn {r : Rule} (h : r.IsCompiled) {text : List Char}
    {found : Match} (hf : r.pattern.find? text = some found) : found.LiesIn text := by
  obtain ⟨hstart, hstop⟩ := Pattern.whole_of_find? h.pattern hf
  exact ⟨hstart, hstop, Span.before_slice_after hstart text⟩

/-- A rule that applies has a match to put its target into. -/
theorem Rule.exists_match_of_applies {r : Rule} (h : r.applies v = true) :
    ∃ found, r.pattern.find? v.url.toList = some found ∧
      (r.targetFor v).toList = found.whole.before v.url.toList ++
        Template.expand ⟨r.pattern, found, v.url.toList⟩
          (Template.substituteMethod r.target.toList v.method.toList) ++
        found.whole.after v.url.toList := by
  obtain ⟨found, hfound⟩ := Option.isSome_iff_exists.mp (Rule.applies_iff.mp h).2
  refine ⟨found, hfound, ?_⟩
  unfold Rule.targetFor
  rw [String.toList_ofList, Template.replaceFirst_of_find? hfound]

/-! ## The first rule that applies -/

theorem firstApplicable_append (a b : List Rule) (v : RequestView) :
    firstApplicable (a ++ b) v = (firstApplicable a v).or (firstApplicable b v) := by
  unfold firstApplicable; rw [List.find?_append]

theorem firstApplicable_eq_none_iff :
    firstApplicable rules v = none ↔ ∀ r ∈ rules, r.applies v = false := by
  unfold firstApplicable
  simp only [List.find?_eq_none, Bool.not_eq_true]

theorem applies_of_firstApplicable {r : Rule} (h : firstApplicable rules v = some r) :
    r.applies v = true := by
  unfold firstApplicable at h
  exact List.find?_some (p := fun r : Rule => r.applies v) h

/-- Rules that do not apply do not count. -/
theorem firstApplicable_eq_head?_filter (rules : List Rule) (v : RequestView) :
    firstApplicable rules v = (rules.filter fun r => r.applies v).head? := by
  unfold firstApplicable; rw [List.head?_filter]

theorem firstApplicable_eq_getElem {i : ℕ} (hi : i < rules.length)
    (happ : rules[i].applies v = true)
    (hfirst : ∀ j (hj : j < i), rules[j].applies v = false) :
    firstApplicable rules v = some rules[i] := by
  unfold firstApplicable
  rw [List.find?_eq_some_iff_getElem]
  refine ⟨happ, i, hi, rfl, fun j hj => ?_⟩
  rw [hfirst j hj]; rfl

/-! ## The verdict -/

theorem verdict_eq (rules : List Rule) (v : RequestView) :
    verdict rules v = ((firstApplicable rules v).map fun r => r.verdict v).getD (.pass, []) := by
  unfold verdict dispatch matchReports
  cases firstApplicable rules v with
  | none => rfl
  | some r => rfl

theorem verdict_of_none (h : ∀ r ∈ rules, r.applies v = false) : verdict rules v = (.pass, []) := by
  rw [verdict_eq, firstApplicable_eq_none_iff.mpr h]; rfl

theorem verdict_of_first {r : Rule} (h : firstApplicable rules v = some r) :
    verdict rules v = r.verdict v := by
  rw [verdict_eq, h]; rfl

theorem dispatch_eq_pass_iff : dispatch rules v = .pass ↔ firstApplicable rules v = none := by
  unfold dispatch
  cases firstApplicable rules v with
  | none => simp
  | some r => simpa using r.outcome_ne_pass v

/-- Of two lists one after the other the first decides, unless it lets the request pass. -/
theorem verdict_append (a b : List Rule) (v : RequestView) :
    verdict (a ++ b) v = if dispatch a v = .pass then verdict b v else verdict a v := by
  rw [verdict_eq (a ++ b), firstApplicable_append]
  by_cases h : dispatch a v = .pass
  · rw [if_pos h, dispatch_eq_pass_iff.mp h, Option.none_or, ← verdict_eq]
  · obtain ⟨r, hr⟩ := Option.ne_none_iff_exists'.mp (mt dispatch_eq_pass_iff.mpr h)
    rw [if_neg h, hr, Option.some_or, ← hr, ← verdict_eq]

/-- The verdict depends on nothing but the rules that apply, in their order. -/
theorem verdict_eq_of_filter_eq {other : List Rule}
    (h : (other.filter fun r => r.applies v) = rules.filter fun r => r.applies v) :
    verdict other v = verdict rules v := by
  rw [verdict_eq, verdict_eq, firstApplicable_eq_head?_filter, firstApplicable_eq_head?_filter, h]

/-- What stands behind a rule that applies does not count. -/
theorem verdict_append_cons {r : Rule} (h : r.applies v = true) (a b c : List Rule) :
    verdict (a ++ r :: b) v = verdict (a ++ r :: c) v := by
  have hcons : ∀ d, verdict (r :: d) v = r.verdict v := fun d =>
    verdict_of_first (List.find?_cons_of_pos h)
  rw [verdict_append, verdict_append, hcons, hcons]

/-- **First match.** Without a rule that applies a request passes and nothing is reported.
Otherwise the first such rule decides: its target is made from a match of its pattern that lies in
the address, its status tells a redirect from a new address, and the one report names the rule, the
address and that target. So rules that do not apply may be put in, left out or moved, and the rules
behind the first one that applies may be anything. -/
theorem dispatch_first_match (rules : List Rule) (v : RequestView) :
    ((∀ r ∈ rules, r.applies v = false) → dispatch rules v = .pass ∧ matchReports rules v = []) ∧
    (∀ i (hi : i < rules.length), rules[i].applies v = true →
      (∀ j (hj : j < i), rules[j].applies v = false) →
      ∃ found target, rules[i].pattern.find? v.url.toList = some found ∧
        (rules[i].IsCompiled → found.LiesIn v.url.toList) ∧
        target = String.ofList (found.whole.before v.url.toList ++
          Template.expand ⟨rules[i].pattern, found, v.url.toList⟩
            (Template.substituteMethod rules[i].target.toList v.method.toList) ++
          found.whole.after v.url.toList) ∧
        target = String.ofList (Template.replaceFirst rules[i].pattern v.url.toList
          (Template.substituteMethod rules[i].target.toList v.method.toList)) ∧
        (∀ status, rules[i].redirect = some status →
          dispatch rules v = .redirect status target) ∧
        (rules[i].redirect = none → dispatch rules v = .reroute target) ∧
        matchReports rules v = [.matched rules[i] v.url target]) ∧
    (∀ a b, rules = a ++ b →
      verdict rules v = if dispatch a v = .pass then verdict b v else verdict a v) ∧
    (∀ other : List Rule,
      (other.filter fun r => r.applies v) = (rules.filter fun r => r.applies v) →
      verdict other v = verdict rules v) ∧
    (∀ a r b c, rules = a ++ r :: b → r.applies v = true →
      verdict (a ++ r :: c) v = verdict rules v) := by
  refine ⟨fun h => ?_, fun i hi happ hfirst => ?_, ?_, ?_, ?_⟩
  · exact Prod.mk.inj (verdict_of_none h)
  · obtain ⟨hdispatch, hreports⟩ :=
      Prod.mk.inj (verdict_of_first (firstApplicable_eq_getElem hi happ hfirst))
    obtain ⟨found, hfound, htarget⟩ := Rule.exists_match_of_applies happ
    refine ⟨found, rules[i].targetFor v, hfound, ?_, ?_, rfl, ?_, ?_, hreports⟩
    · exact fun h => h.match_liesIn hfound
    · rw [← htarget, String.ofList_toList]
    · intro status hs
      rw [hdispatch, Rule.outcome, hs]
    · intro hs
      rw [hdispatch, Rule.outcome, hs]
  · intro a b hab
    rw [hab, verdict_append]
  · intro other hother
    exact verdict_eq_of_filter_eq hother
  · intro a r b c hab happ
    rw [hab, verdict_append_cons happ]

end Detour
