import Detour.Proofs.Shutdown.Sound

/-!
# No signal is lost

Every call through a handle is carried out, a subscriber finds exactly the signals that were sent
through related handles since it last found one, and each handle counts those who listen through
related ones (`signals_told`). Nothing else that happens has a part in it: the calls that do not
matter to a subscriber may be left out.
-/

namespace Detour.Shutdown

/-! ## Counting -/

theorem countP_eq_range {α : Type} (p : α → Bool) (l : List α) :
    l.countP p = (List.range l.length).countP fun i => l[i]?.any p := by
  induction l using List.reverseRecOn with
  | nil => rfl
  | append_singleton l a ih =>
    have hfront : (List.range l.length).countP (fun i => (l ++ [a])[i]?.any p) =
        (List.range l.length).countP fun i => l[i]?.any p := by
      refine List.countP_congr fun i hi => ?_
      rw [List.getElem?_append_left (List.mem_range.mp hi)]
    rw [List.length_append, List.length_singleton, List.range_succ, List.countP_append,
      List.countP_append, hfront, ih]
    simp [List.countP_singleton]

/-- The listeners on the channel of a handle are its audience. -/
theorem Sound.listeners_eq {log : List Event} {h : Hub} (hsound : Sound log h) {handle c : ℕ}
    (hc : h.channelOf? handle = some c) : h.listeners c = audience log handle := by
  obtain ⟨hh, hs⟩ := hsound
  unfold Hub.listeners audience
  rw [hs.ids, List.countP_reverse, countP_eq_range]
  refine List.countP_congr fun id _ => ?_
  have hid : (h.subscribers[id]?.any fun s => s.any fun s => s.channel = c) =
      (h.subscriber? id).any fun s => s.channel = c := by
    unfold Hub.subscriber?
    cases h.subscribers[id]? with
    | none => rfl
    | some s => rfl
  rw [hid, decide_eq_true_iff, hs.live]
  cases hget : h.subscriber? id with
  | none => simp
  | some s => simp [hs.reaches_iff hh hc hget]

/-! ## Calls that do not matter -/

/-- The call may have to do with what the subscriber finds: it sends a signal through a related
handle, is the subscriber's own, or gives out a number. -/
def Matters (log : List Event) (id : ℕ) : Call → Prop
  | .trigger handle => Reaches log handle id
  | .drop n | .receive n => n = id
  | _ => True

/-- Of the calls some are left out that do not matter to the subscriber at their time. -/
inductive Thinned (id : ℕ) : List Call → List Call → Prop
  | nil : Thinned id [] []
  | kept {calls fewer : List Call} (c : Call) (h : Thinned id calls fewer) :
    Thinned id (calls ++ [c]) (fewer ++ [c])
  | leftOut {calls fewer : List Call} {c : Call} (h : Thinned id calls fewer)
    (hc : ¬ Matters (history calls) id c) : Thinned id (calls ++ [c]) fewer

/-- Two histories, each with its hub, that differ in nothing that matters to the subscriber. -/
structure Alike (id : ℕ) (log log' : List Event) (h h' : Hub) : Prop where
  handles : h.handles = h'.handles
  channels : h.channels.length = h'.channels.length
  count : h.subscribers.length = h'.subscribers.length
  origin : origin? log = origin? log'
  through : through? log = through? log'
  gone : Event.dropped id ∈ log ↔ Event.dropped id ∈ log'
  pending : pending id log = pending id log'

namespace Alike

variable {id : ℕ} {log log' log'' : List Event} {h h' h'' : Hub}

theorem refl (id : ℕ) (log : List Event) (h : Hub) : Alike id log log h h :=
  ⟨rfl, rfl, rfl, rfl, rfl, Iff.rfl, rfl⟩

theorem symm (ha : Alike id log log' h h') : Alike id log' log h' h :=
  ⟨ha.handles.symm, ha.channels.symm, ha.count.symm, ha.origin.symm, ha.through.symm, ha.gone.symm,
    ha.pending.symm⟩

theorem trans (ha : Alike id log log' h h') (hb : Alike id log' log'' h' h'') :
    Alike id log log'' h h'' :=
  ⟨ha.handles.trans hb.handles, ha.channels.trans hb.channels, ha.count.trans hb.count,
    ha.origin.trans hb.origin, ha.through.trans hb.through, ha.gone.trans hb.gone,
    ha.pending.trans hb.pending⟩

theorem channelOf?_eq (ha : Alike id log log' h h') : h.channelOf? = h'.channelOf? := by
  funext handle
  unfold Hub.channelOf?
  rw [ha.handles]

theorem reaches_iff (ha : Alike id log log' h h') (handle n : ℕ) :
    Reaches log handle n ↔ Reaches log' handle n := by
  unfold Reaches Related
  rw [ha.through, ha.origin]

theorem live_iff (ha : Alike id log log' h h') : Live log id ↔ Live log' id := by
  unfold Live
  rw [ha.through, ha.gone]

theorem matters_iff (ha : Alike id log log' h h') (c : Call) :
    Matters log id c ↔ Matters log' id c := by
  cases c with
  | trigger handle => exact ha.reaches_iff handle id
  | _ => exact Iff.rfl

/-- Nothing that matters happens by a call that does not matter. -/
theorem idle {c : Call} (hc : ¬ Matters log id c) :
    Alike id log ((h.perform c).1.toList ++ log) h (h.perform c).2 := by
  by_cases hmiss : h.Misses c
  · rw [Hub.perform_of_misses hmiss]
    exact refl id log h
  cases c with
  | trigger handle =>
    obtain ⟨c, hchannel⟩ := Option.ne_none_iff_exists'.mp hmiss
    rw [Hub.perform_trigger hchannel]
    refine ⟨?_, ?_, ?_, rfl, rfl, ?_, ?_⟩
    · split <;> rfl
    · split
      · rfl
      · exact (List.length_modify ..).symm
    · split <;> rfl
    · simp
    · exact (if_neg hc).symm
  | drop n =>
    obtain ⟨s, hs⟩ := Option.ne_none_iff_exists'.mp hmiss
    rw [Hub.perform_drop hs]
    refine ⟨rfl, rfl, List.length_set.symm, rfl, rfl, ?_, rfl⟩
    have hne : id ≠ n := fun heq => hc heq.symm
    simp [hne]
  | receive n =>
    obtain ⟨s, hs⟩ := Option.ne_none_iff_exists'.mp hmiss
    rw [Hub.perform_receive hs]
    refine ⟨rfl, rfl, List.length_set.symm, rfl, rfl, by simp, ?_⟩
    have hne : ¬ n = id := hc
    cases (h.look s).1 <;> simp [Shutdown.pending, hne]
  | create => exact absurd trivial hc
  | clone handle => exact absurd trivial hc
  | subscribe handle => exact absurd trivial hc

/-- The same happens by a call that matters. -/
theorem perform_of_matters (ha : Alike id log log' h h') (hsound : Sound log h)
    (hsound' : Sound log' h') {c : Call} (hc : Matters log id c) :
    Alike id ((h.perform c).1.toList ++ log) ((h'.perform c).1.toList ++ log') (h.perform c).2
      (h'.perform c).2 := by
  have hmisses : h.Misses c ↔ h'.Misses c := by
    have hgone : h.subscriber? id = none ↔ h'.subscriber? id = none := by
      rw [← Option.not_isSome_iff_eq_none, ← Option.not_isSome_iff_eq_none, ← hsound.subscribers.live,
        ← hsound'.subscribers.live, ha.live_iff]
    cases c with
    | create => exact Iff.rfl
    | drop n | receive n =>
      obtain rfl : n = id := hc
      exact hgone
    | clone handle | subscribe handle | trigger handle =>
      unfold Hub.Misses
      rw [ha.channelOf?_eq]
  by_cases hmiss : h.Misses c
  · rw [Hub.perform_of_misses hmiss, Hub.perform_of_misses (hmisses.mp hmiss)]
    exact ha
  have hgets : ∀ s, h.subscriber? id = some s → ∃ s', h'.subscriber? id = some s' := by
    intro s hs
    have hlive := ha.live_iff.mp ((hsound.subscribers.live id).mpr (by rw [hs]; rfl))
    exact Option.isSome_iff_exists.mp ((hsound'.subscribers.live id).mp hlive)
  have hchannel := ha.channelOf?_eq
  have hreaches := ha.reaches_iff
  obtain ⟨hhandles, hchannels, hcount, horigin, hthrough, hgone, hpending⟩ := ha
  cases c with
  | create =>
    rw [Hub.perform_create, Hub.perform_create, hhandles, hchannels]
    refine ⟨rfl, ?_, hcount, ?_, hthrough, by simp [hgone], hpending⟩
    · simp [hchannels]
    · funext n
      show origin? (_ :: log) n = origin? (_ :: log') n
      rw [origin?, origin?, horigin]
  | clone handle =>
    obtain ⟨c, hc⟩ := Option.ne_none_iff_exists'.mp hmiss
    rw [Hub.perform_clone hc, Hub.perform_clone (hchannel ▸ hc), hhandles]
    refine ⟨rfl, hchannels, hcount, ?_, hthrough, by simp [hgone], hpending⟩
    funext n
    show origin? (_ :: log) n = origin? (_ :: log') n
    rw [origin?, origin?, horigin]
  | subscribe handle =>
    obtain ⟨c, hc⟩ := Option.ne_none_iff_exists'.mp hmiss
    rw [Hub.perform_subscribe hc, Hub.perform_subscribe (hchannel ▸ hc), hcount]
    refine ⟨hhandles, hchannels, by simp [hcount], horigin, ?_, by simp [hgone], ?_⟩
    · funext n
      show through? (_ :: log) n = through? (_ :: log') n
      rw [through?, through?, hthrough]
    · show Shutdown.pending id (_ :: log) = Shutdown.pending id (_ :: log')
      rw [Shutdown.pending, Shutdown.pending, hpending]
  | trigger handle =>
    obtain ⟨c, hc'⟩ := Option.ne_none_iff_exists'.mp hmiss
    rw [Hub.perform_trigger hc', Hub.perform_trigger (hchannel ▸ hc')]
    refine ⟨?_, ?_, ?_, horigin, hthrough, by simp [hgone], ?_⟩
    · split <;> split <;> exact hhandles
    · split <;> split <;> simp [hchannels]
    · split <;> split <;> exact hcount
    · show Shutdown.pending id (_ :: log) = Shutdown.pending id (_ :: log')
      rw [Shutdown.pending, Shutdown.pending, hpending]
      simp only [hreaches]
  | drop n =>
    obtain rfl : n = id := hc
    obtain ⟨s, hs⟩ := Option.ne_none_iff_exists'.mp hmiss
    obtain ⟨s', hs'⟩ := hgets s hs
    rw [Hub.perform_drop hs, Hub.perform_drop hs']
    refine ⟨hhandles, hchannels, ?_, horigin, hthrough, by simp [hgone], hpending⟩
    unfold Hub.drop
    simp [hcount]
  | receive n =>
    obtain rfl : n = id := hc
    obtain ⟨s, hs⟩ := Option.ne_none_iff_exists'.mp hmiss
    obtain ⟨s', hs'⟩ := hgets s hs
    rw [Hub.perform_receive hs, Hub.perform_receive hs', hsound.subscribers.look_eq hs,
      hsound'.subscribers.look_eq hs']
    refine ⟨hhandles, hchannels, by simp [hcount], horigin, hthrough, by simp [hgone], ?_⟩
    show Shutdown.pending n (_ :: log) = Shutdown.pending n (_ :: log')
    rw [pending_received, pending_received, hpending]

/-- The same is to be said after a call that is made in both. -/
theorem perform (ha : Alike id log log' h h') (hsound : Sound log h) (hsound' : Sound log' h')
    (c : Call) :
    Alike id ((h.perform c).1.toList ++ log) ((h'.perform c).1.toList ++ log') (h.perform c).2
      (h'.perform c).2 := by
  by_cases hc : Matters log id c
  · exact ha.perform_of_matters hsound hsound' hc
  · have hc' : ¬ Matters log' id c := fun h => hc ((ha.matters_iff c).mpr h)
    exact (idle hc).symm.trans (ha.trans (idle hc'))

end Alike

theorem alike_of_thinned {id : ℕ} {calls fewer : List Call} (h : Thinned id calls fewer) :
    Alike id (history calls) (history fewer) (Hub.after calls) (Hub.after fewer) := by
  induction h with
  | nil => exact .refl id _ _
  | kept c h ih =>
    rw [history_concat_perform, history_concat_perform, Hub.after_concat, Hub.after_concat]
    exact ih.perform (Hub.sound_after _) (Hub.sound_after _) c
  | leftOut h hc ih =>
    rw [history_concat_perform, Hub.after_concat]
    exact (Alike.idle hc).symm.trans ih

/-! ## Signals -/

theorem Received.ofPending_eq_nothing_iff {p : ℕ} : ofPending p = .nothing ↔ p = 0 := by
  match p with
  | 0 => simp [ofPending]
  | 1 => simp [ofPending]
  | n + 2 => simp [ofPending]

theorem Received.ofPending_eq_signal_iff {p : ℕ} : ofPending p = .signal ↔ p = 1 := by
  match p with
  | 0 => simp [ofPending]
  | 1 => simp [ofPending]
  | n + 2 => simp [ofPending]

theorem Received.ofPending_eq_lagged_iff {p missed : ℕ} :
    ofPending p = .lagged missed ↔ 1 < p ∧ missed = p - 1 := by
  match p with
  | 0 => simp [ofPending]
  | 1 => simp [ofPending]
  | n + 2 => simp [ofPending, eq_comm]

/-- Who has not gone away finds what is pending, and nobody else finds anything. -/
theorem Sound.receive?_eq {log : List Event} {h : Hub} (hsound : Sound log h) (id : ℕ) :
    (h.receive? id).map Prod.fst =
      if Live log id then some (.ofPending (pending id log)) else none := by
  have hlive := hsound.subscribers.live id
  unfold Hub.receive?
  cases hs : h.subscriber? id with
  | none =>
    rw [if_neg (by rw [hlive, hs]; exact Bool.false_ne_true)]
    rfl
  | some s =>
    rw [if_pos (by rw [hlive, hs]; rfl), Option.map_some, Option.map_some,
      hsound.subscribers.look_eq hs]

/-- **Signals.** Of the handles and subscribers of a hub two handles are related if they go back to
the same one that was created. After any calls, one more does what has to happen after them: whoever
has a handle makes another one, subscribes or sends a signal through it, whatever others do. A
subscriber that has not gone away finds nothing, a signal, or that it missed all but the last, just
if none, one, or more signals were sent through related handles since it subscribed or found one the
last time. Signals through other handles or before it subscribed, and what others receive and when
they go away, may be left out of the calls. Each handle counts the subscribers through related
handles that have not gone away. -/
theorem signals_told (calls : List Call) :
    (∀ c, ((Hub.after calls).perform c).1 = happens (history calls) c) ∧
    (∀ id, Live (history calls) id → ∃ found h', (Hub.after calls).receive? id = some (found, h') ∧
      (found = .nothing ↔ pending id (history calls) = 0) ∧
      (found = .signal ↔ pending id (history calls) = 1) ∧
      ∀ missed, found = .lagged missed ↔
        1 < pending id (history calls) ∧ missed = pending id (history calls) - 1) ∧
    (∀ id fewer, Thinned id calls fewer →
      (Live (history fewer) id ↔ Live (history calls) id) ∧
      ((Hub.after fewer).receive? id).map Prod.fst =
        ((Hub.after calls).receive? id).map Prod.fst) ∧
    ∀ handle, (origin? (history calls) handle).isSome = true →
      (Hub.after calls).counts[handle]? = some (audience (history calls) handle) := by
  have hsound := Hub.sound_after calls
  refine ⟨hsound.happens_eq, fun id hlive => ?_, fun id fewer hthinned => ?_,
    fun handle hhandle => ?_⟩
  · have hfound := hsound.receive?_eq id
    rw [if_pos hlive, Option.map_eq_some_iff] at hfound
    obtain ⟨⟨found, h'⟩, hreceive, hfound⟩ := hfound
    obtain rfl : found = .ofPending (pending id (history calls)) := hfound
    exact ⟨_, h', hreceive, Received.ofPending_eq_nothing_iff, Received.ofPending_eq_signal_iff,
      fun missed => Received.ofPending_eq_lagged_iff⟩
  · have halike := alike_of_thinned hthinned
    refine ⟨halike.live_iff.symm, ?_⟩
    rw [hsound.receive?_eq, (Hub.sound_after fewer).receive?_eq]
    simp only [halike.live_iff, halike.pending]
  · have hlt := (hsound.handles.known handle).mp hhandle
    have hc : (Hub.after calls).channelOf? handle = some (Hub.after calls).handles[handle] :=
      List.getElem?_eq_getElem hlt
    unfold Hub.counts
    rw [List.getElem?_map, List.getElem?_eq_getElem hlt, Option.map_some, hsound.listeners_eq hc]

/-- Of two signals through a related handle the first is missed; the one through another handle does
not count. -/
example :
    let calls : List Call :=
      [.create, .clone 0, .create, .subscribe 1, .trigger 0, .trigger 2, .trigger 0]
    pending 0 (history calls) = 2 ∧
      ((Hub.after calls).receive? 0).map Prod.fst = some (.lagged 1) := by
  decide

end Detour.Shutdown
