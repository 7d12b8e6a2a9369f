import Detour.Proofs.Store.Change

/-!
# What changes write

A change writes one rule behind all others, or puts new rules in the place of all, or writes nothing
(`Change.perform_eq_write`). After changes that only add, the rules that there were still stand in
front (`Change.rules_after_of_adds`).
-/

namespace Detour

/-- What a change writes into the cell. -/
inductive Write where
  /-- The rules that stand there, and one behind them. -/
  | add (rule : Rule)
  | put (rules : List Rule)

/-- The rules after a write. -/
def Write.on (rules : List Rule) : Write → List Rule
  | add rule => rules ++ [rule]
  | put new => new

/-- What registering a rule writes. A rule that is refused is not written. -/
def RawRule.write? (raw : RawRule) : Option Write := (Rule.compile raw).toOption.map .add

namespace RawRule

theorem write?_ok {raw : RawRule} {r : Rule} (h : Rule.compile raw = .ok r) :
    raw.write? = some (.add r) := by
  unfold write?; rw [h]; rfl

theorem write?_error {raw : RawRule} {e : RuleError} (h : Rule.compile raw = .error e) :
    raw.write? = none := by
  unfold write?; rw [h]; rfl

theorem isSome_write? (raw : RawRule) : raw.write?.isSome = raw.isAccepted := by
  cases h : Rule.compile raw with
  | ok r => rw [write?_ok h, isAccepted_ok h]; rfl
  | error e => rw [write?_error h, isAccepted_error h]; rfl

end RawRule

namespace Change

/-- What a change writes. -/
def write? : Change → Option Write
  | register raw => raw.write?
  | tryRegister raw => raw.write?
  | replace raws => some (.put (Store.accepted raws))
  | reset => some (.put [])

/-- Does the change leave the rules that there are? -/
def adds : Change → Bool
  | register _ => true
  | tryRegister _ => true
  | replace _ => false
  | reset => false

theorem isSome_write? (c : Change) : c.write?.isSome = c.takesPlace := by
  cases c with
  | register raw => exact raw.isSome_write?
  | tryRegister raw => exact raw.isSome_write?
  | replace raws => rfl
  | reset => rfl

/-- A change installs what it writes. -/
theorem perform_eq_write (s : Store) (c : Change) :
    c.perform s = (c.reply, c.write?.elim s fun w => .install (w.on s.rules)) := by
  cases c with
  | register raw =>
    dsimp only [perform, reply, write?]
    cases hc : Rule.compile raw with
    | ok r => rw [Store.register_ok hc, RawRule.isAccepted_ok hc, RawRule.write?_ok hc]; rfl
    | error e =>
      rw [Store.register_error hc, RawRule.isAccepted_error hc, RawRule.write?_error hc]; rfl
  | tryRegister raw =>
    dsimp only [perform, reply, write?]
    cases hc : Rule.compile raw with
    | ok r => rw [Store.tryRegister_ok hc, RawRule.write?_ok hc]; rfl
    | error e => rw [Store.tryRegister_error hc, RawRule.write?_error hc]; rfl
  | replace raws => rfl
  | reset => rfl

theorem rules_perform {c : Change} {w : Write} (h : c.write? = some w) (s : Store) :
    (c.perform s).2.rules = w.on s.rules := by
  rw [perform_eq_write, h]; rfl

end Change

/-! ## Rules that stay -/

namespace Change

variable {c : Change}

theorem given_of_adds (h : c.adds = true) (raws : List RawRule) :
    c.given raws = raws ++ c.given [] := by
  cases c with
  | register raw => rfl
  | tryRegister raw => rfl
  | replace raws => cases h
  | reset => cases h

theorem rules_perform_of_adds (h : c.adds = true) (s : Store) :
    (c.perform s).2.rules = s.rules ++ Store.accepted (c.given []) := by
  have hadd : ∀ raw : RawRule, c.write? = raw.write? →
      (c.perform s).2.rules = s.rules ++ Store.accepted [raw] := by
    intro raw hwrite
    rw [perform_eq_write, hwrite]
    cases hc : Rule.compile raw with
    | ok r =>
      rw [RawRule.write?_ok hc, ← List.nil_append [raw], Store.accepted_concat_ok hc]
      rfl
    | error e =>
      rw [RawRule.write?_error hc, ← List.nil_append [raw], Store.accepted_concat_error hc]
      exact (List.append_nil _).symm
  cases c with
  | register raw => exact hadd raw rfl
  | tryRegister raw => exact hadd raw rfl
  | replace raws => cases h
  | reset => cases h

/-- Changes that leave the rules that there are put theirs behind them. -/
theorem rules_after_of_adds {changes : List Change} (h : ∀ c ∈ changes, c.adds = true)
    (s : Store) : (Run.after perform s changes).rules =
      s.rules ++ Store.accepted (givenSince [] changes) := by
  induction changes using List.reverseRecOn with
  | nil => exact (List.append_nil _).symm
  | append_singleton changes c ih =>
    have hc : c.adds = true := h c List.mem_concat_self
    rw [Run.after_concat, rules_perform_of_adds hc,
      ih fun c' hc' => h c' (List.mem_append_left _ hc'), givenSince_concat,
      given_of_adds hc (givenSince [] changes), Store.accepted_append, List.append_assoc]

end Change

end Detour
