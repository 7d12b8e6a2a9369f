import Detour.Proofs.Run
import Detour.Shutdown

/-!
# What happens to a hub

Calls on a hub leave a history. It tells which handles go back to the same one, who still listens
through them, and how many signals each of those has not yet seen. It follows from the calls alone
(`history`), without a look at a hub: what a hub does is measured against it.
-/

namespace Detour.Shutdown

/-! ## Calls -/

/-- What is done with a hub. -/
inductive Call where
  /-- A new handle, which is no clone. -/
  | create
  | clone (handle : ℕ)
  | subscribe (handle : ℕ)
  | trigger (handle : ℕ)
  /-- A subscriber goes away. -/
  | drop (id : ℕ)
  | receive (id : ℕ)

/-- What happened by a call, with the number that was given out or what was found. -/
inductive Event where
  | created (handle : ℕ)
  | cloned (source handle : ℕ)
  | subscribed (handle id : ℕ)
  | triggered (handle : ℕ)
  | dropped (id : ℕ)
  | received (id : ℕ) (found : Received)
deriving DecidableEq

namespace Hub

/-- Carries out a call. Nothing happens if there is no such handle or subscriber. -/
def perform (h : Hub) : Call → Option Event × Hub
  | .create => (some (.created h.create.1), h.create.2)
  | .clone handle => ((h.clone? handle).map fun r => .cloned handle r.1,
      ((h.clone? handle).map Prod.snd).getD h)
  | .subscribe handle => ((h.subscribe? handle).map fun r => .subscribed handle r.1,
      ((h.subscribe? handle).map Prod.snd).getD h)
  | .trigger handle => ((h.trigger? handle).map fun _ => .triggered handle,
      (h.trigger? handle).getD h)
  | .drop id => ((h.subscriber? id).map fun _ => .dropped id, h.drop id)
  | .receive id => ((h.receive? id).map fun r => .received id r.1,
      ((h.receive? id).map Prod.snd).getD h)

/-- The hub after some calls. -/
abbrev after (calls : List Call) : Hub := Run.after perform empty calls

theorem after_concat (calls : List Call) (c : Call) :
    after (calls ++ [c]) = ((after calls).perform c).2 := Run.after_concat perform empty calls c

end Hub

/-! ## Histories -/

/-- The handle that was created and not cloned to which a handle goes back. -/
def origin? : List Event → ℕ → Option ℕ
  | [], _ => none
  | .created n :: earlier, handle => if n = handle then some n else origin? earlier handle
  | .cloned source n :: earlier, handle =>
    if n = handle then origin? earlier source else origin? earlier handle
  | _ :: earlier, handle => origin? earlier handle

/-- Both handles go back to the same one. -/
def Related (log : List Event) (a b : ℕ) : Prop :=
  ∃ r, origin? log a = some r ∧ origin? log b = some r

/-- The handle through which somebody subscribed. -/
def through? : List Event → ℕ → Option ℕ
  | [], _ => none
  | .subscribed handle n :: earlier, id => if n = id then some handle else through? earlier id
  | _ :: earlier, id => through? earlier id

/-- The subscriber listens through a handle that is related to the given one. -/
def Reaches (log : List Event) (handle id : ℕ) : Prop :=
  ∃ g, through? log id = some g ∧ Related log handle g

/-- The subscriber has not gone away. -/
def Live (log : List Event) (id : ℕ) : Prop :=
  (through? log id).isSome = true ∧ Event.dropped id ∉ log

instance (log : List Event) (a b : ℕ) : Decidable (Related log a b) :=
  decidable_of_iff ((origin? log a).isSome = true ∧ origin? log a = origin? log b) <| by
    unfold Related
    cases origin? log a with
    | none => simp
    | some r => simp [eq_comm]

instance (log : List Event) (handle id : ℕ) : Decidable (Reaches log handle id) :=
  decidable_of_iff ((through? log id).any (fun g => Related log handle g) = true) <| by
    simp [Reaches, Option.any_eq_true]

instance (log : List Event) (id : ℕ) : Decidable (Live log id) := by unfold Live; infer_instance

/-- The number of signals sent through related handles since the subscriber subscribed or found one
the last time. One is left to be seen when it was told of others that it missed. -/
def pending (id : ℕ) : List Event → ℕ
  | [] => 0
  | .subscribed _ n :: earlier => if n = id then 0 else pending id earlier
  | .triggered handle :: earlier =>
    if Reaches earlier handle id then pending id earlier + 1 else pending id earlier
  | .received n .signal :: earlier => if n = id then 0 else pending id earlier
  | .received n (.lagged _) :: earlier => if n = id then 1 else pending id earlier
  | _ :: earlier => pending id earlier

/-- What somebody finds for whom so many signals are pending. -/
def Received.ofPending : ℕ → Received
  | 0 => .nothing
  | 1 => .signal
  | n + 2 => .lagged (n + 1)

/-- Only the latest of several signals is left to be seen by one who was told of the others. -/
theorem pending_received (id : ℕ) (log : List Event) :
    pending id (.received id (.ofPending (pending id log)) :: log) =
      if 1 < pending id log then 1 else 0 := by
  match h : pending id log with
  | 0 => exact h
  | 1 => exact if_pos rfl
  | n + 2 => rw [Received.ofPending, pending, if_pos rfl, if_pos (by omega)]

/-- All handles that were ever made, the latest first. -/
def handles (log : List Event) : List ℕ :=
  log.filterMap fun
    | .created n | .cloned _ n => some n
    | _ => none

/-- All who ever subscribed, the latest first. -/
def subscribers (log : List Event) : List ℕ :=
  log.filterMap fun
    | .subscribed _ id => some id
    | _ => none

/-- The number of those who listen through handles related to the given one. -/
def audience (log : List Event) (handle : ℕ) : ℕ :=
  (subscribers log).countP fun id => Live log id ∧ Reaches log handle id

/-! ## The history of some calls -/

/-- What a call has to do after what happened before it. Handles and subscribers are numbered in
their order. A call through a handle that was never made has no effect, nor has one for a subscriber
who has gone away or never was. -/
def happens (log : List Event) : Call → Option Event
  | .create => some (.created (handles log).length)
  | .clone handle =>
    if (origin? log handle).isSome then some (.cloned handle (handles log).length) else none
  | .subscribe handle =>
    if (origin? log handle).isSome then some (.subscribed handle (subscribers log).length) else none
  | .trigger handle => if (origin? log handle).isSome then some (.triggered handle) else none
  | .drop id => if Live log id then some (.dropped id) else none
  | .receive id => if Live log id then some (.received id (.ofPending (pending id log))) else none

/-- What has to happen by some calls, the latest first. -/
def history (calls : List Call) : List Event :=
  calls.foldl (fun log c => (happens log c).toList ++ log) []

theorem history_concat (calls : List Call) (c : Call) :
    history (calls ++ [c]) = (happens (history calls) c).toList ++ history calls := by
  unfold history
  rw [List.foldl_append]
  rfl

end Detour.Shutdown
