import Detour.Proofs.Run
import Detour.Rule.Store

/-!
# Changes of the store

A store that holds the accepted ones of some raw rules does so after every change, for the raw rules
that were given since the last change of all rules (`Change.perform_eq`). What a change answers does
not depend on the store.
-/

namespace Detour

/-- A change of the store. -/
inductive Change where
  /-- A rule goes behind all others, and the answer tells whether it was accepted. -/
  | register (raw : RawRule)
  /-- The same, but the answer tells why a rule was refused. -/
  | tryRegister (raw : RawRule)
  | replace (raws : List RawRule)
  | reset

/-- What a change answers. -/
inductive ChangeReply where
  | registered (accepted : Bool)
  | tried (result : Except RuleError Unit)
  | replaced (accepted : ℕ)
  | done

/-- Is the rule accepted? -/
def RawRule.isAccepted (raw : RawRule) : Bool := (Rule.compile raw).isOk

namespace Change

/-- Makes a change. -/
def perform (s : Store) : Change → ChangeReply × Store
  | register raw => (.registered (s.register raw).1, (s.register raw).2)
  | tryRegister raw =>
    match s.tryRegister raw with
    | .ok s => (.tried (.ok ()), s)
    | .error e => (.tried (.error e), s)
  | replace raws => (.replaced (Store.replace raws).1, (Store.replace raws).2)
  | reset => (.done, .reset)

/-- The raw rules given since the last change of all rules, if `before` were those before. -/
def given (before : List RawRule) : Change → List RawRule
  | register raw => before ++ [raw]
  | tryRegister raw => before ++ [raw]
  | replace raws => raws
  | reset => []

/-- Does the change take place? One that adds a rule does so only if the rule is accepted. -/
def takesPlace : Change → Bool
  | register raw => raw.isAccepted
  | tryRegister raw => raw.isAccepted
  | replace _ => true
  | reset => true

/-- The answer that a change owes. -/
def reply : Change → ChangeReply
  | register raw => .registered raw.isAccepted
  | tryRegister raw => .tried ((Rule.compile raw).map fun _ => ())
  | replace raws => .replaced (Store.accepted raws).length
  | reset => .done

/-- What is reported of the rules that a change gives. -/
def reports : Change → List Report
  | register raw => raw.reports
  | tryRegister raw => raw.reports
  | replace raws => raws.flatMap RawRule.reports
  | reset => []

end Change

/-! ## Accepted rules -/

namespace Store

theorem accepted_append (a b : List RawRule) : accepted (a ++ b) = accepted a ++ accepted b := by
  unfold accepted; rw [List.filterMap_append]

theorem accepted_concat_ok {raw : RawRule} {r : Rule} (h : Rule.compile raw = .ok r)
    (raws : List RawRule) : accepted (raws ++ [raw]) = accepted raws ++ [r] := by
  rw [accepted_append]
  simp [accepted, h, Except.toOption]

theorem accepted_concat_error {raw : RawRule} {e : RuleError} (h : Rule.compile raw = .error e)
    (raws : List RawRule) : accepted (raws ++ [raw]) = accepted raws := by
  rw [accepted_append]
  simp [accepted, h, Except.toOption]

theorem mem_accepted {raws : List RawRule} {r : Rule} :
    r ∈ accepted raws ↔ ∃ raw ∈ raws, Rule.compile raw = .ok r := by
  unfold accepted
  rw [List.mem_filterMap]
  refine exists_congr fun raw => and_congr_right fun _ => ?_
  cases Rule.compile raw with
  | ok r' => simp [Except.toOption]
  | error e => simp [Except.toOption]

/-! ## Registering -/

theorem tryRegister_ok {raw : RawRule} {r : Rule} (h : Rule.compile raw = .ok r) (s : Store) :
    s.tryRegister raw = .ok (install (s.rules ++ [r])) := by
  unfold tryRegister; rw [h]; rfl

theorem tryRegister_error {raw : RawRule} {e : RuleError} (h : Rule.compile raw = .error e)
    (s : Store) : s.tryRegister raw = .error e := by
  unfold tryRegister; rw [h]; rfl

theorem register_ok {raw : RawRule} {r : Rule} (h : Rule.compile raw = .ok r) (s : Store) :
    s.register raw = (true, install (s.rules ++ [r])) := by
  unfold register; rw [tryRegister_ok h]

theorem register_error {raw : RawRule} {e : RuleError} (h : Rule.compile raw = .error e)
    (s : Store) : s.register raw = (false, s) := by
  unfold register; rw [tryRegister_error h]

end Store

theorem RawRule.isAccepted_ok {raw : RawRule} {r : Rule} (h : Rule.compile raw = .ok r) :
    raw.isAccepted = true := by
  unfold RawRule.isAccepted; rw [h]; rfl

theorem RawRule.isAccepted_error {raw : RawRule} {e : RuleError} (h : Rule.compile raw = .error e) :
    raw.isAccepted = false := by
  unfold RawRule.isAccepted; rw [h]; rfl

/-! ## What a change does -/

namespace Change

/-- The store after a change: the accepted ones of the raw rules given since the last change of all
rules, and their number on the gauge if the change takes place. -/
theorem perform_eq {s : Store} {raws : List RawRule} (h : s.rules = Store.accepted raws)
    (c : Change) :
    c.perform s = (c.reply, ⟨Store.accepted (c.given raws),
      if c.takesPlace then some (Store.accepted (c.given raws)).length else s.gauge⟩) := by
  cases c with
  | register raw =>
    cases hc : Rule.compile raw with
    | ok r =>
      simp only [perform, given, takesPlace, reply, Store.register_ok hc,
        RawRule.isAccepted_ok hc, Store.accepted_concat_ok hc, Store.install, h, if_true]
    | error e =>
      simp only [perform, given, takesPlace, reply, Store.register_error hc,
        RawRule.isAccepted_error hc, Store.accepted_concat_error hc, ← h]
      rfl
  | tryRegister raw =>
    cases hc : Rule.compile raw with
    | ok r =>
      simp only [perform, given, takesPlace, reply, Store.tryRegister_ok hc,
        RawRule.isAccepted_ok hc, Store.accepted_concat_ok hc, Store.install, h, hc, if_true]
      rfl
    | error e =>
      simp only [perform, given, takesPlace, reply, Store.tryRegister_error hc,
        RawRule.isAccepted_error hc, Store.accepted_concat_error hc, hc, ← h]
      rfl
  | replace raws' => rfl
  | reset => rfl

/-- A rule that is refused leaves the store as it was. -/
theorem perform_of_refused {raw : RawRule} {e : RuleError} (h : Rule.compile raw = .error e)
    (s : Store) :
    (register raw).perform s = (.registered false, s) ∧
      (tryRegister raw).perform s = (.tried (.error e), s) := by
  simp only [perform, Store.register_error h, Store.tryRegister_error h, and_self]

/-- What does not take place adds nothing that is accepted. -/
theorem accepted_given_of_not_takesPlace {c : Change} (h : c.takesPlace = false)
    (raws : List RawRule) : Store.accepted (c.given raws) = Store.accepted raws := by
  have hrefused : ∀ raw : RawRule, raw.isAccepted = false →
      Store.accepted (raws ++ [raw]) = Store.accepted raws := by
    intro raw hraw
    cases hc : Rule.compile raw with
    | ok r => rw [RawRule.isAccepted_ok hc] at hraw; cases hraw
    | error e => exact Store.accepted_concat_error hc raws
  cases c with
  | register raw => exact hrefused raw h
  | tryRegister raw => exact hrefused raw h
  | replace raws' => cases h
  | reset => cases h

end Change

/-! ## Runs of changes -/

/-- The raw rules given since the last change of all rules, if `raws` were those at the start. -/
def givenSince (raws : List RawRule) (changes : List Change) : List RawRule :=
  changes.foldl Change.given raws

theorem givenSince_append (raws : List RawRule) (a b : List Change) :
    givenSince raws (a ++ b) = givenSince (givenSince raws a) b := by
  unfold givenSince; rw [List.foldl_append]

theorem givenSince_concat (raws : List RawRule) (changes : List Change) (c : Change) :
    givenSince raws (changes ++ [c]) = c.given (givenSince raws changes) := by
  rw [givenSince_append]; rfl

theorem givenSince_registers (given raws : List RawRule) :
    givenSince given (raws.map Change.register) = given ++ raws := by
  induction raws generalizing given with
  | nil => exact (List.append_nil given).symm
  | cons raw raws ih =>
    show givenSince (given ++ [raw]) (raws.map Change.register) = given ++ raw :: raws
    rw [ih, List.append_assoc, List.singleton_append]

/-- The store after a run of changes. -/
theorem Change.after_eq {s : Store} {raws : List RawRule} (h : s.rules = Store.accepted raws)
    (changes : List Change) :
    Run.after Change.perform s changes = ⟨Store.accepted (givenSince raws changes),
      if changes.any takesPlace then some (Store.accepted (givenSince raws changes)).length
      else s.gauge⟩ := by
  refine Run.after_induction _ (P := fun changes t => t =
    Store.mk (Store.accepted (givenSince raws changes)) (if changes.any takesPlace then
      some (Store.accepted (givenSince raws changes)).length else s.gauge)) ?_ ?_ changes
  · rw [List.any_nil, if_neg Bool.false_ne_true, givenSince, List.foldl_nil, ← h]
  · rintro changes t c rfl
    rw [perform_eq rfl, givenSince_concat, List.any_append, List.any_cons, List.any_nil,
      Bool.or_false]
    cases hc : c.takesPlace with
    | true => rw [Bool.or_true]; rfl
    | false => rw [Bool.or_false, accepted_given_of_not_takesPlace hc]; rfl

/-! ## The store that is built from raw rules -/

/-- Building a store is registering its rules one by one. -/
theorem Store.ofRaw_eq_after (raws : List RawRule) :
    Store.ofRaw raws = Run.after Change.perform .empty (raws.map Change.register) := by
  unfold Store.ofRaw Run.after
  rw [List.foldl_map]
  rfl

/-- The store after a run of changes that starts with the given rules. -/
theorem Store.after_ofRaw (raws : List RawRule) (changes : List Change) :
    Run.after Change.perform (Store.ofRaw raws) changes =
      ⟨Store.accepted (givenSince raws changes),
        if raws.any RawRule.isAccepted || changes.any Change.takesPlace then
          some (Store.accepted (givenSince raws changes)).length
        else none⟩ := by
  have hempty : Store.empty.rules = Store.accepted [] := rfl
  rw [ofRaw_eq_after, ← Run.after_append, Change.after_eq hempty, givenSince_append,
    givenSince_registers, List.nil_append, List.any_append, List.any_map]
  rfl

@[simp] theorem Store.rules_ofRaw (raws : List RawRule) :
    (Store.ofRaw raws).rules = Store.accepted raws := by
  have h := congrArg Store.rules (after_ofRaw raws [])
  exact h

end Detour
