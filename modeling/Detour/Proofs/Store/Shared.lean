import Detour.Proofs.Rule.FirstMatch
import Detour.Proofs.Store.Write

/-!
# A store that is shared

Callers share the rules in one cell, which a turn of a caller reads or exchanges as a whole. A call
that adds a rule reads the cell, makes a copy with the rule behind all others and puts it in the
place of what it read, if that still stands there; otherwise it starts again from the read. The
number of rules goes to the gauge in a turn of its own. Turns of any number of callers may come in
any order. A call that is left alone comes to its end (`SharedStore.returns_alone`), and a change
without other calls does what it does to a store at once (`SharedStore.alone_eq_perform`).
-/

namespace Detour

/-! ## Callers -/

/-- What stands in the cell. Each write makes a new value, and its number tells it from all
others. -/
structure Content where
  number : ℕ
  rules : List Rule

/-- What a turn does that others may see. -/
inductive Effect where
  | read (rules : List Rule)
  | wrote (c : Change) (rules : List Rule)
  /-- The number goes to the gauge. -/
  | published (n : ℕ)

/-- The cell after an effect. -/
def Effect.cell (before : Content) : Effect → Content
  | read _ => before
  | wrote _ rules => ⟨before.number + 1, rules⟩
  | published _ => before

/-- The gauge after an effect. -/
def Effect.gauge (before : Option ℕ) : Effect → Option ℕ
  | read _ => before
  | wrote _ _ => before
  | published n => some n

/-- How far the call of a change is. `loaded` is the number of rules of the last copy. -/
inductive ChangeStage where
  | asked
  | reading (rule : Rule) (loaded : ℕ)
  | copying (rule : Rule) (loaded : ℕ) (seen : Content)
  | swapping (rule : Rule) (loaded : ℕ) (seen : ℕ) (next : List Rule)
  | storing (rules : List Rule)
  | publishing (loaded : ℕ)
  | returned (reply : ChangeReply)

/-- A turn of the call of a change: its effect and how far the call is then. -/
def ChangeStage.next (c : Change) (cell : Content) : ChangeStage → Option Effect × ChangeStage
  | asked =>
    match c.write? with
    | none => (none, returned c.reply)
    | some (.add rule) => (none, reading rule 0)
    | some (.put rules) => (none, storing rules)
  | reading rule loaded => (none, copying rule loaded cell)
  | copying rule _ seen =>
    let next := seen.rules ++ [rule]
    (none, swapping rule next.length seen.number next)
  | swapping rule loaded seen next =>
    if seen = cell.number then (some (.wrote c next), publishing loaded)
    else (none, reading rule loaded)
  | storing rules => (some (.wrote c rules), publishing rules.length)
  | publishing loaded => (some (.published loaded), returned c.reply)
  | returned reply => (none, returned reply)

/-- A call that reads the rules. -/
inductive Reader where
  | list
  | dispatch (v : RequestView)

/-- What it answers. -/
inductive Seen where
  | listed (rules : List Rule)
  | judged (verdict : Outcome × List Report)

/-- What a reader makes of the rules. -/
def Reader.use (rules : List Rule) : Reader → Seen
  | list => .listed rules
  | dispatch v => .judged (verdict rules v)

/-- How far a reader is. -/
inductive ReaderStage where
  | asked
  | holding (rules : List Rule)
  | returned (seen : Seen)

/-- A turn of a reader: its effect and how far the reader is then. -/
def ReaderStage.next (q : Reader) (cell : Content) : ReaderStage → Option Effect × ReaderStage
  | asked => (some (.read cell.rules), holding cell.rules)
  | holding rules => (none, returned (q.use rules))
  | returned seen => (none, returned seen)

/-- A call, and how far it is. -/
inductive Caller where
  | change (c : Change) (stage : ChangeStage)
  | reader (q : Reader) (stage : ReaderStage)

/-- A turn of a call. -/
def Caller.next (cell : Content) : Caller → Option Effect × Caller
  | change c stage => (stage.next c cell).map id (change c)
  | reader q stage => (stage.next q cell).map id (reader q)

/-! ## The store and its callers -/

/-- A store with all calls that were made. -/
structure SharedStore where
  cell : Content
  gauge : Option ℕ
  callers : List Caller

/-- A call is made, or one that was made takes its turn. -/
inductive Turn where
  | change (c : Change)
  | read (q : Reader)
  | go (i : ℕ)

/-- The effect of a turn, and whose turn it was. -/
structure Deed where
  caller : ℕ
  effect : Effect

namespace SharedStore

/-- A store before any calls. -/
def ofStore (s : Store) : SharedStore := ⟨⟨0, s.rules⟩, s.gauge, []⟩

/-- One turn. -/
def perform (s : SharedStore) : Turn → Option Deed × SharedStore
  | .change c => (none, { s with callers := s.callers ++ [.change c .asked] })
  | .read q => (none, { s with callers := s.callers ++ [.reader q .asked] })
  | .go i =>
    match s.callers[i]? with
    | none => (none, s)
    | some caller =>
      let (effect, caller) := caller.next s.cell
      (effect.map (Deed.mk i),
        { cell := effect.elim s.cell (Effect.cell s.cell)
          gauge := effect.elim s.gauge (Effect.gauge s.gauge)
          callers := s.callers.set i caller })

theorem perform_change (s : SharedStore) (c : Change) : s.perform (.change c) =
    (none, { s with callers := s.callers ++ [.change c .asked] }) := rfl

theorem perform_read (s : SharedStore) (q : Reader) : s.perform (.read q) =
    (none, { s with callers := s.callers ++ [.reader q .asked] }) := rfl

theorem perform_go {s : SharedStore} {i : ℕ} {caller : Caller} (h : s.callers[i]? = some caller) :
    s.perform (.go i) = ((caller.next s.cell).1.map (Deed.mk i),
      { cell := (caller.next s.cell).1.elim s.cell (Effect.cell s.cell)
        gauge := (caller.next s.cell).1.elim s.gauge (Effect.gauge s.gauge)
        callers := s.callers.set i (caller.next s.cell).2 }) := by
  unfold perform
  dsimp only
  rw [h]

theorem perform_go_none {s : SharedStore} {i : ℕ} (h : s.callers[i]? = none) :
    s.perform (.go i) = (none, s) := by
  unfold perform
  dsimp only
  rw [h]

/-- The store after some turns. -/
abbrev after (s : SharedStore) (turns : List Turn) : SharedStore := Run.after perform s turns

/-- The effects of some turns. -/
def deeds (s : SharedStore) (turns : List Turn) : List Deed :=
  (Run.replies perform s turns).flatMap Option.toList

end SharedStore

/-! ## One after the other -/

/-- The changes that wrote, in the order of their writes. -/
def changesOf (deeds : List Deed) : List Change :=
  deeds.filterMap fun d =>
    match d.effect with
    | .wrote c _ => some c
    | _ => none

/-- The effects of one caller. -/
def effectsOf (i : ℕ) (deeds : List Deed) : List Effect :=
  deeds.filterMap fun d => if d.caller = i then some d.effect else none

/-- The rules of a store that makes the changes one after the other, in the order of their
writes. -/
def content (start : Store) (deeds : List Deed) : List Rule :=
  (Run.after Change.perform start (changesOf deeds)).rules

/-- What a call that had the effects `own` may do when the store holds the given rules: read these,
write what its change makes of these if it did nothing before, or publish the number of the rules
that it wrote if it did nothing else. -/
inductive Due (rules : List Rule) (own : List Effect) : Effect → Prop where
  | read (hown : own = []) : Due rules own (.read rules)
  | wrote {c : Change} {w : Write} (hwrite : c.write? = some w) (hown : own = []) :
      Due rules own (.wrote c (w.on rules))
  | published {c : Change} {written : List Rule} (hown : own = [.wrote c written]) :
      Due rules own (.published written.length)

section Deeds

variable {start : Store} {deeds : List Deed} {cell : Content} {i : ℕ} {e : Effect}

theorem effectsOf_append (i : ℕ) (a b : List Deed) :
    effectsOf i (a ++ b) = effectsOf i a ++ effectsOf i b := List.filterMap_append

theorem effectsOf_concat_self (i : ℕ) (deeds : List Deed) (e : Effect) :
    effectsOf i (deeds ++ [⟨i, e⟩]) = effectsOf i deeds ++ [e] := by
  rw [effectsOf_append]; simp [effectsOf]

theorem effectsOf_concat_of_ne {j : ℕ} (h : i ≠ j) (deeds : List Deed) (e : Effect) :
    effectsOf j (deeds ++ [⟨i, e⟩]) = effectsOf j deeds := by
  rw [effectsOf_append]; simp [effectsOf, h]

/-- Where the first effect of a caller stands among all deeds. -/
theorem exists_of_effectsOf_eq_cons {rest : List Effect} (h : effectsOf i deeds = e :: rest) :
    ∃ before later, deeds = before ++ ⟨i, e⟩ :: later ∧ effectsOf i before = [] ∧
      effectsOf i later = rest := by
  obtain ⟨before, d, later, rfl, hbefore, hd, hlater⟩ := List.filterMap_eq_cons_iff.mp h
  obtain ⟨caller, effect⟩ := d
  obtain ⟨rfl, rfl⟩ : caller = i ∧ effect = e := by simpa using hd
  exact ⟨before, later, rfl, List.filterMap_eq_nil_iff.mpr hbefore, hlater⟩

theorem changesOf_append (a b : List Deed) : changesOf (a ++ b) = changesOf a ++ changesOf b :=
  List.filterMap_append

theorem content_wrote {c : Change} {w : Write} (h : c.write? = some w) (i : ℕ)
    (rules : List Rule) :
    content start (deeds ++ [⟨i, .wrote c rules⟩]) = w.on (content start deeds) := by
  have hchange : changesOf [⟨i, .wrote c rules⟩] = [c] := rfl
  unfold content
  rw [changesOf_append, hchange, Run.after_concat, Change.rules_perform h]

theorem content_append_of_silent {later : List Deed} (h : changesOf later = [])
    (before : List Deed) : content start (before ++ later) = content start before := by
  unfold content
  rw [changesOf_append, h, List.append_nil]

/-- What a deed that is due leaves in the cell is what its change leaves in a store. -/
theorem content_concat (hcell : cell.rules = content start deeds) {own : List Effect}
    (h : Due cell.rules own e) : (e.cell cell).rules = content start (deeds ++ [⟨i, e⟩]) := by
  cases h with
  | wrote hwrite hown => rw [content_wrote hwrite, ← hcell]; rfl
  | read hown => exact hcell.trans (content_append_of_silent rfl deeds).symm
  | published hown => exact hcell.trans (content_append_of_silent rfl deeds).symm

end Deeds

/-! ## A call that is left alone -/

/-- How many turns the call of a change needs if nobody else takes one. A copy of what does not
stand in the cell any more is made in vain. -/
def ChangeStage.turnsLeft (cell : Content) : ChangeStage → ℕ
  | asked => 5
  | reading _ _ => 4
  | copying _ _ seen => if seen.number = cell.number then 3 else 6
  | swapping _ _ seen _ => if seen = cell.number then 2 else 5
  | storing _ => 2
  | publishing _ => 1
  | returned _ => 0

def ReaderStage.turnsLeft : ReaderStage → ℕ
  | asked => 2
  | holding _ => 1
  | returned _ => 0

theorem ChangeStage.turnsLeft_le (cell : Content) (stage : ChangeStage) :
    stage.turnsLeft cell ≤ 6 := by
  cases stage with
  | copying rule loaded seen => dsimp only [turnsLeft]; split_ifs <;> omega
  | swapping rule loaded seen next => dsimp only [turnsLeft]; split_ifs <;> omega
  | _ => exact Nat.le_of_ble_eq_true rfl

theorem ChangeStage.turnsLeft_next (c : Change) (cell : Content) (stage : ChangeStage) :
    (stage.next c cell).2.turnsLeft ((stage.next c cell).1.elim cell (Effect.cell cell)) ≤
      stage.turnsLeft cell - 1 := by
  cases stage with
  | asked =>
    dsimp only [next, turnsLeft]
    cases c.write? with
    | none => exact Nat.zero_le _
    | some w =>
      cases w with
      | add rule => exact Nat.le_refl 4
      | put rules => exact Nat.le_of_ble_eq_true rfl
  | reading rule loaded => exact Nat.le_of_eq (if_pos rfl)
  | copying rule loaded seen =>
    dsimp only [next, turnsLeft, Option.elim]
    split_ifs <;> omega
  | swapping rule loaded seen next =>
    dsimp only [ChangeStage.next, turnsLeft]
    split_ifs
    · exact Nat.le_refl 1
    · exact Nat.le_refl 4
  | storing rules => exact Nat.le_refl 1
  | publishing loaded => exact Nat.le_refl 0
  | returned reply => exact Nat.le_refl 0

namespace Caller

def turnsLeft (cell : Content) : Caller → ℕ
  | change _ stage => stage.turnsLeft cell
  | reader _ stage => stage.turnsLeft

/-- The call came to its end. -/
def isReturned : Caller → Bool
  | change _ (.returned _) => true
  | reader _ (.returned _) => true
  | _ => false

theorem turnsLeft_le (cell : Content) (caller : Caller) : caller.turnsLeft cell ≤ 6 := by
  cases caller with
  | change c stage => exact stage.turnsLeft_le cell
  | reader q stage => cases stage <;> exact Nat.le_of_ble_eq_true rfl

theorem isReturned_of_turnsLeft {cell : Content} {caller : Caller}
    (h : caller.turnsLeft cell = 0) : caller.isReturned = true := by
  cases caller with
  | change c stage =>
    cases stage with
    | returned reply => rfl
    | copying rule loaded seen => dsimp only [turnsLeft, ChangeStage.turnsLeft] at h; split_ifs at h
    | swapping rule loaded seen next =>
      dsimp only [turnsLeft, ChangeStage.turnsLeft] at h
      split_ifs at h
    | _ => cases h
  | reader q stage =>
    cases stage with
    | returned seen => rfl
    | _ => cases h

/-- A turn is a turn less. -/
theorem turnsLeft_next (cell : Content) (caller : Caller) :
    (caller.next cell).2.turnsLeft ((caller.next cell).1.elim cell (Effect.cell cell)) ≤
      caller.turnsLeft cell - 1 := by
  cases caller with
  | change c stage => exact stage.turnsLeft_next c cell
  | reader q stage => cases stage <;> exact Nat.le_refl _

end Caller

namespace SharedStore

theorem returns_of_turnsLeft {s : SharedStore} {i : ℕ} {caller : Caller}
    (hi : s.callers[i]? = some caller) {n : ℕ} (hn : caller.turnsLeft s.cell ≤ n) :
    ∃ caller', (s.after (List.replicate n (.go i))).callers[i]? = some caller' ∧
      caller'.isReturned = true := by
  induction n generalizing s caller with
  | zero => exact ⟨caller, hi, Caller.isReturned_of_turnsLeft (Nat.le_zero.mp hn)⟩
  | succ n ih =>
    have hnext : (s.callers.set i (caller.next s.cell).2)[i]? = some (caller.next s.cell).2 :=
      List.getElem?_set_self (List.getElem?_eq_some_iff.mp hi).1
    have hfewer := Caller.turnsLeft_next s.cell caller
    rw [List.replicate_succ, after, Run.after_cons, perform_go hi]
    refine ih hnext ?_
    dsimp only
    omega

/-- A call that is left alone comes to its end, however far it and the others are. -/
theorem returns_alone {s : SharedStore} {i : ℕ} {caller : Caller}
    (hi : s.callers[i]? = some caller) :
    ∃ caller', (s.after (List.replicate 6 (.go i))).callers[i]? = some caller' ∧
      caller'.isReturned = true :=
  returns_of_turnsLeft hi (caller.turnsLeft_le s.cell)

/-- Without other calls, the turns of a change do what the change does to a store at once. -/
theorem alone_eq_perform (s : Store) (c : Change) :
    let now := (ofStore s).after (.change c :: List.replicate 6 (.go 0))
    now.callers = [.change c (.returned (c.perform s).1)] ∧
      Store.mk now.cell.rules now.gauge = (c.perform s).2 := by
  rw [Change.perform_eq_write]
  cases hwrite : c.write? with
  | none => simp [ofStore, after, perform, Caller.next, ChangeStage.next, hwrite]
  | some w =>
    cases w with
    | add rule =>
      simp [ofStore, after, perform, Caller.next, ChangeStage.next, hwrite, Effect.cell,
        Effect.gauge, Store.install, Write.on, List.replicate]
    | put rules =>
      simp [ofStore, after, perform, Caller.next, ChangeStage.next, hwrite, Effect.cell,
        Effect.gauge, Store.install, Write.on, List.replicate]

end SharedStore

end Detour
