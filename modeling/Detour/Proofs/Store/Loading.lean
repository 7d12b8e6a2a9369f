import Detour.Proofs.Rule.FirstMatch
import Detour.Proofs.Store.Change

/-!
# Loading rules

A store tells its logger of every raw rule that it is given, at the moment when the rule is compiled
(`Registry`). Rules may be loaded by starting with them, by putting them in the place of all others,
or by registering them one by one after a reset. All three leave the same rules and make the same
calls of the logger (`loads_agree`).
-/

namespace Detour

/-! ## Calls of the logger -/

/-- A call of the logger. -/
inductive LoggerCall where
  | registered (r : Rule)
  | rejected (e : RuleError)
  | matched (r : Rule) (url target : String)

/-- The call that a report is. A warning goes past the logger. -/
def Report.call? : Report → Option LoggerCall
  | .warning _ => none
  | .registered r => some (.registered r)
  | .rejected e => some (.rejected e)
  | .matched r url target => some (.matched r url target)

/-- The calls among some reports. -/
def loggerCalls (reports : List Report) : List LoggerCall := reports.filterMap Report.call?

theorem loggerCalls_append (a b : List Report) :
    loggerCalls (a ++ b) = loggerCalls a ++ loggerCalls b := List.filterMap_append

theorem loggerCalls_warnings (warnings : List Warning) :
    loggerCalls (warnings.map .warning) = [] := by
  unfold loggerCalls
  rw [List.filterMap_map]
  exact List.filterMap_eq_nil_iff.mpr fun _ _ => rfl

/-- The call that is owed for a raw rule. -/
inductive RawRule.Owes (raw : RawRule) : LoggerCall → Prop
  | registered {r : Rule} (h : Rule.compile raw = .ok r) : Owes raw (.registered r)
  | rejected {e : RuleError} (h : Rule.compile raw = .error e) : Owes raw (.rejected e)

/-- Of every raw rule one call is made, the one that is owed. -/
theorem RawRule.loggerCalls_reports (raw : RawRule) :
    ∃ call, raw.Owes call ∧ loggerCalls raw.reports = [call] := by
  unfold reports
  cases h : Rule.compile raw with
  | ok r =>
    refine ⟨.registered r, .registered h, ?_⟩
    dsimp only
    rw [loggerCalls_append, loggerCalls_warnings]
    rfl
  | error e => exact ⟨.rejected e, .rejected h, rfl⟩

theorem forall₂_owes (raws : List RawRule) :
    List.Forall₂ RawRule.Owes raws (loggerCalls (raws.flatMap RawRule.reports)) := by
  induction raws with
  | nil => exact .nil
  | cons raw raws ih =>
    obtain ⟨call, howes, hcalls⟩ := raw.loggerCalls_reports
    rw [List.flatMap_cons, loggerCalls_append, hcalls]
    exact .cons howes ih

/-! ## A store that tells what it does -/

/-- A store, and what was reported of the rules that it was given, oldest first. -/
structure Registry where
  store : Store
  told : List Report

namespace Registry

def empty : Registry := ⟨.empty, []⟩

/-- Compiles a raw rule and tells what came of it. -/
def takeIn (g : Registry) (raw : RawRule) : Except RuleError Rule × Registry :=
  (Rule.compile raw, { g with told := g.told ++ raw.reports })

/-- Adds a rule behind all others, unless it is refused. -/
def tryRegister (g : Registry) (raw : RawRule) : Except RuleError Unit × Registry :=
  match g.takeIn raw with
  | (.ok r, g) => (.ok (), { g with store := .install (g.store.rules ++ [r]) })
  | (.error e, g) => (.error e, g)

def register (g : Registry) (raw : RawRule) : Bool × Registry :=
  match g.tryRegister raw with
  | (.ok _, g) => (true, g)
  | (.error _, g) => (false, g)

/-- Compiles raw rules one after the other and keeps those that are accepted. -/
def takeInAll (g : Registry) : List RawRule → List Rule × Registry
  | [] => ([], g)
  | raw :: raws =>
    match g.takeIn raw with
    | (.ok r, g) => (r :: (g.takeInAll raws).1, (g.takeInAll raws).2)
    | (.error _, g) => g.takeInAll raws

/-- Puts the accepted rules in the place of all others, once all are compiled. -/
def replace (g : Registry) (raws : List RawRule) : ℕ × Registry :=
  match g.takeInAll raws with
  | (rules, g) => (rules.length, { g with store := .install rules })

def reset (g : Registry) : Registry := { g with store := .reset }

/-- Registers rules one by one, with nothing there before. -/
def start (raws : List RawRule) : Registry := raws.foldl (fun g raw => (g.register raw).2) empty

/-- Makes a change. -/
def perform (g : Registry) : Change → ChangeReply × Registry
  | .register raw => (.registered (g.register raw).1, (g.register raw).2)
  | .tryRegister raw => (.tried (g.tryRegister raw).1, (g.tryRegister raw).2)
  | .replace raws => (.replaced (g.replace raws).1, (g.replace raws).2)
  | .reset => (.done, g.reset)

/-! ## The store behind it -/

theorem tryRegister_ok {raw : RawRule} {r : Rule} (h : Rule.compile raw = .ok r) (g : Registry) :
    g.tryRegister raw = (.ok (), ⟨.install (g.store.rules ++ [r]), g.told ++ raw.reports⟩) := by
  unfold tryRegister takeIn; rw [h]

theorem tryRegister_error {raw : RawRule} {e : RuleError} (h : Rule.compile raw = .error e)
    (g : Registry) : g.tryRegister raw = (.error e, ⟨g.store, g.told ++ raw.reports⟩) := by
  unfold tryRegister takeIn; rw [h]

theorem register_eq (g : Registry) (raw : RawRule) :
    g.register raw = ((g.store.register raw).1,
      ⟨(g.store.register raw).2, g.told ++ raw.reports⟩) := by
  unfold register
  cases h : Rule.compile raw with
  | ok r => rw [tryRegister_ok h, Store.register_ok h]
  | error e => rw [tryRegister_error h, Store.register_error h]

theorem takeInAll_eq (g : Registry) (raws : List RawRule) :
    g.takeInAll raws =
      (Store.accepted raws, { g with told := g.told ++ raws.flatMap RawRule.reports }) := by
  induction raws generalizing g with
  | nil => simp [takeInAll, Store.accepted]
  | cons raw raws ih =>
    unfold takeInAll takeIn
    cases h : Rule.compile raw with
    | ok r => simp [ih, Store.accepted, h, Except.toOption]
    | error e => simp [ih, Store.accepted, h, Except.toOption]

theorem replace_eq (g : Registry) (raws : List RawRule) :
    g.replace raws = ((Store.replace raws).1,
      ⟨(Store.replace raws).2, g.told ++ raws.flatMap RawRule.reports⟩) := by
  unfold replace; rw [takeInAll_eq]; rfl

/-- A change changes the store as it does without a logger, and tells its reports. -/
theorem perform_eq (g : Registry) (c : Change) :
    g.perform c = ((c.perform g.store).1, ⟨(c.perform g.store).2, g.told ++ c.reports⟩) := by
  cases c with
  | register raw => rw [perform, register_eq]; rfl
  | tryRegister raw =>
    dsimp only [perform, Change.perform]
    cases h : Rule.compile raw with
    | ok r => rw [tryRegister_ok h, Store.tryRegister_ok h]; rfl
    | error e => rw [tryRegister_error h, Store.tryRegister_error h]; rfl
  | replace raws => rw [perform, replace_eq]; rfl
  | reset => rw [perform, Change.reports, List.append_nil]; rfl

theorem after_eq (g : Registry) (changes : List Change) :
    Run.after perform g changes =
      ⟨Run.after Change.perform g.store changes, g.told ++ changes.flatMap Change.reports⟩ := by
  induction changes generalizing g with
  | nil => simp
  | cons c changes ih =>
    rw [Run.after_cons, perform_eq, ih, Run.after_cons, List.flatMap_cons, List.append_assoc]

theorem start_eq (raws : List RawRule) :
    start raws = ⟨Store.ofRaw raws, raws.flatMap RawRule.reports⟩ := by
  have hrun : start raws = Run.after perform empty (raws.map .register) := by
    unfold start Run.after
    rw [List.foldl_map]
    rfl
  rw [hrun, after_eq, Store.ofRaw_eq_after, List.flatMap_map]
  rfl

end Registry

/-- The change added a rule. -/
def ChangeReply.isAcceptance : ChangeReply → Bool
  | registered accepted => accepted
  | tried result => result.isOk
  | replaced _ => false
  | done => false

/-- As many registrations are accepted as there are rules among the given ones. -/
theorem countP_isAcceptance_registers (g : Registry) (raws : List RawRule) :
    (Run.replies Registry.perform g (raws.map .register)).countP ChangeReply.isAcceptance =
      (Store.accepted raws).length := by
  induction raws generalizing g with
  | nil => rfl
  | cons raw raws ih =>
    rw [List.map_cons, Run.replies_cons, List.countP_cons, ih, Registry.perform, Registry.register_eq]
    cases h : Rule.compile raw with
    | ok r =>
      rw [Store.register_ok h]
      simp [ChangeReply.isAcceptance, Store.accepted, h, Except.toOption]
    | error e =>
      rw [Store.register_error h]
      simp [ChangeReply.isAcceptance, Store.accepted, h, Except.toOption]

/-- **Loading.** To start with some raw rules, to put them in the place of those that there are, and
to register them one by one after a reset leave the same rules, the accepted ones in their order,
and so decide about every request alike. The same is told in all three cases, whatever was told
before: in the order of the raw rules one call of the logger for each of them, with the rule if it
is accepted and with the reason if it is not. Putting rules in the place of others counts as many of
them as registering accepts. -/
theorem loads_agree (raws : List RawRule) (g : Registry) :
    let started := Registry.start raws
    let replaced := (g.replace raws).2
    let changes := Change.reset :: raws.map .register
    let registered := Run.after Registry.perform g changes
    (started.store = Store.ofRaw raws ∧ replaced.store = (Store.replace raws).2 ∧
      registered.store = Run.after Change.perform g.store changes) ∧
    (started.store.rules = Store.accepted raws ∧ replaced.store.rules = started.store.rules ∧
      registered.store.rules = started.store.rules) ∧
    (∀ v : RequestView,
      verdict replaced.store.rules v = verdict started.store.rules v ∧
        verdict registered.store.rules v = verdict started.store.rules v) ∧
    (∃ told, started.told = told ∧ replaced.told = g.told ++ told ∧
      registered.told = g.told ++ told ∧ List.Forall₂ RawRule.Owes raws (loggerCalls told)) ∧
    (g.replace raws).1 =
      (Run.replies Registry.perform g changes).countP ChangeReply.isAcceptance := by
  intro started replaced changes registered
  have hstarted : started = ⟨Store.ofRaw raws, raws.flatMap RawRule.reports⟩ :=
    Registry.start_eq raws
  have hreplaced : replaced =
      ⟨(Store.replace raws).2, g.told ++ raws.flatMap RawRule.reports⟩ := by
    show (g.replace raws).2 = _
    rw [Registry.replace_eq]
  have htold : changes.flatMap Change.reports = raws.flatMap RawRule.reports := by
    show [] ++ (raws.map Change.register).flatMap Change.reports = _
    rw [List.nil_append, List.flatMap_map]
    rfl
  have hregistered : registered = ⟨Run.after Change.perform g.store changes,
      g.told ++ raws.flatMap RawRule.reports⟩ := by
    rw [← htold]
    exact Registry.after_eq g changes
  -- after the reset nothing of the store before is left
  have hrules : registered.store.rules = Store.accepted raws := by
    have hempty : Store.reset.rules = Store.accepted [] := rfl
    rw [hregistered]
    show (Run.after Change.perform Store.reset (raws.map .register)).rules = _
    rw [Change.after_eq hempty, givenSince_registers, List.nil_append]
  have hstart : started.store.rules = Store.accepted raws := by
    rw [hstarted, Store.rules_ofRaw]
  have hreplace : replaced.store.rules = Store.accepted raws := by
    rw [hreplaced]
    rfl
  refine ⟨⟨?_, ?_, ?_⟩, ⟨hstart, ?_, ?_⟩, fun v => ⟨?_, ?_⟩,
    ⟨raws.flatMap RawRule.reports, ?_, ?_, ?_, forall₂_owes raws⟩, ?_⟩
  · rw [hstarted]
  · rw [hreplaced]
  · rw [hregistered]
  · rw [hreplace, hstart]
  · rw [hrules, hstart]
  · rw [hreplace, hstart]
  · rw [hrules, hstart]
  · rw [hstarted]
  · rw [hreplaced]
  · rw [hregistered]
  · show _ = (ChangeReply.done :: Run.replies Registry.perform g.reset (raws.map .register)).countP
      ChangeReply.isAcceptance
    rw [List.countP_cons_of_neg (by decide), countP_isAcceptance_registers, Registry.replace_eq]
    rfl

end Detour
