import Detour.Proofs.Store.Change

/-!
# Sessions with a store

A session changes a store and takes snapshots of its rules. At every moment the store holds the
accepted ones of the raw rules given since the last change of all rules, the gauge shows their
number as soon as some change took place, and every snapshot shows the rules of its moment
(`session_run`).
-/

namespace Detour

/-- What is done in a session. -/
inductive Operation where
  | change (c : Change)
  /-- Takes a snapshot of the rules. -/
  | list

/-- What an operation answers. -/
inductive Reply where
  | changed (reply : ChangeReply)
  | listed (rules : List Rule)

/-- A store and the snapshots of its rules that were taken, oldest first. -/
structure Session where
  store : Store
  snapshots : List (List Rule)

namespace Operation

/-- The changes among some operations. -/
def changes (ops : List Operation) : List Change :=
  ops.filterMap fun
    | change c => some c
    | list => none

/-- The answer that an operation owes if `given` are the raw rules since the last change of all
rules. -/
def reply (given : List RawRule) : Operation → Reply
  | change c => .changed c.reply
  | list => .listed (Store.accepted given)

/-- The snapshots that some operations owe: each is taken of the rules that are accepted by then. -/
def listings : List RawRule → List Operation → List (List Rule)
  | _, [] => []
  | given, change c :: ops => listings (c.given given) ops
  | given, list :: ops => Store.accepted given :: listings given ops

end Operation

namespace Session

/-- A session with the store of the given rules. -/
def start (raws : List RawRule) : Session := ⟨Store.ofRaw raws, []⟩

/-- Carries out an operation. -/
def perform (s : Session) : Operation → Reply × Session
  | .change c => (.changed (c.perform s.store).1, { s with store := (c.perform s.store).2 })
  | .list => (.listed s.store.rules, { s with snapshots := s.snapshots ++ [s.store.rules] })

theorem perform_change (s : Session) (c : Change) : s.perform (.change c) =
    (.changed (c.perform s.store).1, { s with store := (c.perform s.store).2 }) := rfl

theorem perform_list (s : Session) : s.perform .list =
    (.listed s.store.rules, { s with snapshots := s.snapshots ++ [s.store.rules] }) := rfl

/-- The session after some operations. -/
abbrev after (s : Session) (ops : List Operation) : Session := Run.after perform s ops

/-- The answers to some operations. -/
abbrev replies (s : Session) (ops : List Operation) : List Reply := Run.replies perform s ops

/-- Snapshots do not touch the store. -/
theorem store_after (s : Session) (ops : List Operation) :
    (s.after ops).store = Run.after Change.perform s.store (Operation.changes ops) := by
  refine Run.view_after perform Change.perform store _ (fun s op => ?_) s ops
  cases op with
  | change c => rfl
  | list => rfl

/-- The store of a session that was started with some rules. -/
theorem store_after_start (raws : List RawRule) (ops : List Operation) :
    ((start raws).after ops).store = ⟨Store.accepted (givenSince raws (Operation.changes ops)),
      if raws.any RawRule.isAccepted || (Operation.changes ops).any Change.takesPlace then
        some (Store.accepted (givenSince raws (Operation.changes ops))).length
      else none⟩ := by
  rw [store_after]; exact Store.after_ofRaw raws (Operation.changes ops)

theorem rules_after_start (raws : List RawRule) (ops : List Operation) :
    ((start raws).after ops).store.rules =
      Store.accepted (givenSince raws (Operation.changes ops)) := by
  rw [store_after_start]

/-- Operations add snapshots behind those there are. -/
theorem snapshots_after (s : Session) (raws : List RawRule)
    (h : s.store.rules = Store.accepted raws) (ops : List Operation) :
    (s.after ops).snapshots = s.snapshots ++ Operation.listings raws ops := by
  induction ops generalizing s raws with
  | nil => exact (List.append_nil _).symm
  | cons op ops ih =>
    cases op with
    | change c =>
      have hstep : (c.perform s.store).2.rules = Store.accepted (c.given raws) := by
        rw [Change.perform_eq h]
      exact ih _ (c.given raws) hstep
    | list =>
      calc (s.after (.list :: ops)).snapshots
          = (s.snapshots ++ [s.store.rules]) ++ Operation.listings raws ops :=
            ih { s with snapshots := s.snapshots ++ [s.store.rules] } raws h
        _ = s.snapshots ++ Operation.listings raws (.list :: ops) := by
            rw [List.append_assoc, h]; rfl

/-- The answer to an operation is the one that it owes. -/
theorem perform_fst {s : Session} {raws : List RawRule} (h : s.store.rules = Store.accepted raws)
    (op : Operation) : (s.perform op).1 = op.reply raws := by
  cases op with
  | change c => rw [perform_change, Change.perform_eq h]; rfl
  | list => rw [perform_list, h]; rfl

/-- A rule that is refused leaves everything as it was, and the report names the reason. -/
theorem perform_of_refused {raw : RawRule} {e : RuleError} (h : Rule.compile raw = .error e)
    (s : Session) :
    s.perform (.change (.register raw)) = (.changed (.registered false), s) ∧
      s.perform (.change (.tryRegister raw)) = (.changed (.tried (.error e)), s) ∧
      raw.reports = [.rejected e] := by
  obtain ⟨hregister, htry⟩ := Change.perform_of_refused h s.store
  refine ⟨?_, ?_, ?_⟩
  · rw [perform_change, hregister]
  · rw [perform_change, htry]
  · unfold RawRule.reports; rw [h]

end Session

/-- Every way to count the rules of a store gives the same number. -/
theorem Store.counts_eq (s : Store) :
    s.size = s.rules.length ∧ s.isEmpty = (s.rules.length == 0) ∧
      s.display = "RuleStore \x7b rules: " ++ toString s.rules.length ++ " \x7d" := by
  refine ⟨rfl, ?_, rfl⟩
  unfold isEmpty
  cases s.rules with
  | nil => rfl
  | cons r rules => rfl

/-- **Sessions.** After any operations on the store of any rules: it holds the accepted ones of the
raw rules given since the last change of all rules, in their order; the gauge shows their number if
some rule was accepted or some change of all rules made, and nothing otherwise; the snapshots show
the rules of their moments, whatever came later; and all counts agree. Every operation on the way
was answered as it owes by the rules of that moment, and a rule that is refused changes nothing. -/
theorem session_run (raws : List RawRule) (ops : List Operation) :
    let s := (Session.start raws).after ops
    let given := givenSince raws (Operation.changes ops)
    s.store.rules = Store.accepted given ∧
    s.store.gauge =
      (if raws.any RawRule.isAccepted || (Operation.changes ops).any Change.takesPlace then
        some s.store.rules.length
      else none) ∧
    s.snapshots = Operation.listings raws ops ∧
    (∀ later, s.snapshots <+: (s.after later).snapshots) ∧
    (s.store.size = s.store.rules.length ∧
      s.store.isEmpty = (s.store.rules.length == 0) ∧
      s.store.display =
        "RuleStore \x7b rules: " ++ toString s.store.rules.length ++ " \x7d") ∧
    (∀ before op later, ops = before ++ op :: later →
      ((Session.start raws).replies ops)[before.length]? =
        some (op.reply (givenSince raws (Operation.changes before)))) ∧
    (∀ raw e, Rule.compile raw = .error e →
      s.perform (.change (.register raw)) = (.changed (.registered false), s) ∧
      s.perform (.change (.tryRegister raw)) = (.changed (.tried (.error e)), s) ∧
      raw.reports = [.rejected e]) := by
  intro s given
  have hrules : s.store.rules = Store.accepted given := Session.rules_after_start raws ops
  refine ⟨hrules, ?_, ?_, ?_, Store.counts_eq s.store, ?_, ?_⟩
  · rw [hrules]
    exact congrArg Store.gauge (Session.store_after_start raws ops)
  · exact Session.snapshots_after (Session.start raws) raws (Store.rules_ofRaw raws) ops
  · intro later
    rw [Session.snapshots_after s given hrules later]
    exact List.prefix_append ..
  · intro before op later hops
    rw [hops, Session.replies, Run.getElem?_replies]
    exact congrArg some (Session.perform_fst (Session.rules_after_start raws before) op)
  · intro raw e hrefused
    exact Session.perform_of_refused hrefused s

end Detour
