import Detour.Proofs.Shutdown.History

/-!
# The hub after some calls

After any calls a hub is what their history tells (`Hub.sound_after`): handles that go back to the
same one have one channel, and each subscriber has to see as many signals as are pending.
-/

namespace Detour.Shutdown

/-! ## Calls on a hub -/

theorem getElem?_concat {α : Type} (l : List α) (a : α) (i : ℕ) :
    (l ++ [a])[i]? = if i = l.length then some a else l[i]? := by
  grind

namespace Hub

variable {h : Hub}

theorem perform_create (h : Hub) : h.perform .create = (some (.created h.handles.length),
    { h with channels := h.channels ++ [⟨0⟩], handles := h.handles ++ [h.channels.length] }) := rfl

theorem perform_clone {handle c : ℕ} (hc : h.channelOf? handle = some c) :
    h.perform (.clone handle) =
      (some (.cloned handle h.handles.length), { h with handles := h.handles ++ [c] }) := by
  simp [perform, clone?, hc]

theorem perform_subscribe {handle c : ℕ} (hc : h.channelOf? handle = some c) :
    h.perform (.subscribe handle) = (some (.subscribed handle h.subscribers.length),
      { h with subscribers := h.subscribers ++ [some ⟨c, h.sentOn c⟩] }) := by
  simp [perform, subscribe?, hc]

theorem perform_trigger {handle c : ℕ} (hc : h.channelOf? handle = some c) :
    h.perform (.trigger handle) = (some (.triggered handle),
      if h.listeners c = 0 then h
      else { h with channels := h.channels.modify c fun ch => ⟨ch.sent + 1⟩ }) := by
  simp [perform, trigger?, hc]

theorem perform_drop {id : ℕ} {s : Subscriber} (hs : h.subscriber? id = some s) :
    h.perform (.drop id) = (some (.dropped id), h.drop id) := by
  simp [perform, hs]

theorem perform_receive {id : ℕ} {s : Subscriber} (hs : h.subscriber? id = some s) :
    h.perform (.receive id) = (some (.received id (h.look s).1),
      { h with subscribers := h.subscribers.set id (some { s with next := (h.look s).2 }) }) := by
  simp [perform, receive?, hs]

theorem getElem?_handles_append {n c : ℕ} (hc : h.channelOf? n = some c) (more : List ℕ) :
    (h.handles ++ more)[n]? = some c := by
  rw [List.getElem?_append_left (List.getElem?_eq_some_iff.mp hc).1]
  exact hc

theorem sentOn_modify {c : ℕ} (hc : c < h.channels.length) (c' : ℕ) :
    ({ h with channels := h.channels.modify c fun ch => ⟨ch.sent + 1⟩ } : Hub).sentOn c' =
      if c' = c then h.sentOn c' + 1 else h.sentOn c' := by
  unfold sentOn
  dsimp only
  rw [List.getElem?_modify]
  by_cases heq : c' = c
  · subst heq
    simp [hc]
  · cases h.channels[c']? with
    | none => simp [heq]
    | some ch => simp [heq, Ne.symm heq]

/-- There is no such handle or subscriber. -/
def Misses (h : Hub) : Call → Prop
  | .create => False
  | .clone handle | .subscribe handle | .trigger handle => h.channelOf? handle = none
  | .drop id | .receive id => h.subscriber? id = none

theorem perform_of_misses {c : Call} (hc : h.Misses c) : h.perform c = (none, h) := by
  cases c with
  | create => exact hc.elim
  | clone handle => simp [perform, clone?, show h.channelOf? handle = none from hc]
  | subscribe handle => simp [perform, subscribe?, show h.channelOf? handle = none from hc]
  | trigger handle => simp [perform, trigger?, show h.channelOf? handle = none from hc]
  | receive id => simp [perform, receive?, show h.subscriber? id = none from hc]
  | drop id =>
    have hid : h.subscriber? id = none := hc
    have hsame : h.subscribers.set id none = h.subscribers := by
      apply List.ext_getElem?
      intro i
      rw [List.getElem?_set]
      by_cases hi : id = i
      · subst hi
        unfold subscriber? at hid
        cases hget : h.subscribers[id]? with
        | none => simp [List.getElem?_eq_none_iff.mp hget]
        | some s =>
          rw [hget] at hid
          have hlt := (List.getElem?_eq_some_iff.mp hget).1
          simp [hlt, show s = none from hid]
      · rw [if_neg hi]
    simp [perform, drop, hid, hsame]

end Hub

/-! ## A hub and its history -/

/-- The handles of the hub are those of the history, and two of them have one channel if they go
back to the same handle. -/
structure HandlesMatch (log : List Event) (h : Hub) : Prop where
  ids : handles log = (List.range h.handles.length).reverse
  known : ∀ n, (origin? log n).isSome = true ↔ n < h.handles.length
  origin : ∀ n r, origin? log n = some r → origin? log r = some r ∧ h.channelOf? n = h.channelOf? r
  apart : ∀ r r', origin? log r = some r → origin? log r' = some r' →
    h.channelOf? r = h.channelOf? r' → r = r'
  channels : ∀ n c, h.channelOf? n = some c → c < h.channels.length

/-- The subscribers of the hub are those of the history, and each has to see as many signals as are
pending. -/
structure SubscribersMatch (log : List Event) (h : Hub) : Prop where
  ids : subscribers log = (List.range h.subscribers.length).reverse
  known : ∀ id, (through? log id).isSome = true ↔ id < h.subscribers.length
  gone : ∀ id, Event.dropped id ∈ log → id < h.subscribers.length
  live : ∀ id, Live log id ↔ (h.subscriber? id).isSome = true
  stands : ∀ id s, h.subscriber? id = some s → ∃ g, through? log id = some g ∧
    h.channelOf? g = some s.channel ∧ h.sentOn s.channel = s.next + pending id log

/-- The hub is what the history tells. -/
structure Sound (log : List Event) (h : Hub) : Prop where
  handles : HandlesMatch log h
  subscribers : SubscribersMatch log h

namespace HandlesMatch

variable {log : List Event} {h : Hub}

theorem channelOf?_isSome_iff {n : ℕ} : (h.channelOf? n).isSome = true ↔ n < h.handles.length := by
  simp [Hub.channelOf?]

/-- Handles are related if they have the same channel. -/
theorem related_iff (hm : HandlesMatch log h) {a b c : ℕ} (hc : h.channelOf? a = some c) :
    Related log a b ↔ h.channelOf? b = some c := by
  constructor
  · rintro ⟨r, ha, hb⟩
    rw [(hm.origin b r hb).2, ← (hm.origin a r ha).2, hc]
  · intro hb
    have ha' : (origin? log a).isSome = true :=
      (hm.known a).mpr (channelOf?_isSome_iff.mp (by rw [hc]; rfl))
    have hb' : (origin? log b).isSome = true :=
      (hm.known b).mpr (channelOf?_isSome_iff.mp (by rw [hb]; rfl))
    obtain ⟨r, hr⟩ := Option.isSome_iff_exists.mp ha'
    obtain ⟨r', hr'⟩ := Option.isSome_iff_exists.mp hb'
    obtain ⟨hself, hsame⟩ := hm.origin a r hr
    obtain ⟨hself', hsame'⟩ := hm.origin b r' hr'
    have heq : r = r' := hm.apart r r' hself hself' (by rw [← hsame, ← hsame', hc, hb])
    exact ⟨r, hr, heq ▸ hr'⟩

theorem lt_of_origin? (hm : HandlesMatch log h) {n r : ℕ} (hr : origin? log n = some r) :
    n < h.handles.length ∧ r < h.handles.length := by
  refine ⟨(hm.known n).mp (by rw [hr]; rfl), (hm.known r).mp ?_⟩
  rw [(hm.origin n r hr).1]
  rfl

theorem length_ids (hm : HandlesMatch log h) :
    (handles log).length = h.handles.length := by
  rw [hm.ids, List.length_reverse, List.length_range]

theorem ids_concat (hm : HandlesMatch log h) {e : Event}
    (he : handles (e :: log) = h.handles.length :: handles log) (c : ℕ) :
    handles (e :: log) = (List.range (h.handles ++ [c]).length).reverse := by
  rw [he, hm.ids, List.length_append, List.length_singleton, List.range_succ, List.reverse_append]
  rfl

theorem create (hm : HandlesMatch log h) :
    HandlesMatch (.created h.handles.length :: log)
      { h with channels := h.channels ++ [⟨0⟩], handles := h.handles ++ [h.channels.length] } := by
  have horigin : ∀ n, origin? (.created h.handles.length :: log) n =
      if n = h.handles.length then some n else origin? log n := by
    intro n
    rw [origin?]
    by_cases hn : n = h.handles.length
    · rw [if_pos hn.symm, if_pos hn, hn]
    · rw [if_neg (Ne.symm hn), if_neg hn]
  have hnot : ∀ {n r}, origin? log n = some r → n ≠ h.handles.length ∧ r ≠ h.handles.length := by
    intro n r hr
    obtain ⟨hn, hr⟩ := hm.lt_of_origin? hr
    omega
  -- the channel of the new handle is new
  have hfresh : ∀ n, h.channelOf? n ≠ some h.channels.length := fun n hn =>
    Nat.lt_irrefl _ (hm.channels n _ hn)
  constructor
  · exact hm.ids_concat rfl _
  · intro n
    rw [horigin, List.length_append, List.length_singleton]
    by_cases hn : n = h.handles.length
    · simp [hn]
    · rw [if_neg hn, hm.known]
      omega
  · intro n r hr
    rw [horigin] at hr ⊢
    unfold Hub.channelOf?
    rw [getElem?_concat, getElem?_concat]
    by_cases hn : n = h.handles.length
    · rw [if_pos hn] at hr
      cases hr
      rw [if_pos hn]
      exact ⟨rfl, rfl⟩
    · rw [if_neg hn] at hr
      rw [if_neg (hnot hr).2, if_neg (hnot hr).2, if_neg hn]
      exact hm.origin n r hr
  · intro r r' hr hr' hsame
    rw [horigin] at hr hr'
    unfold Hub.channelOf? at hsame
    rw [getElem?_concat, getElem?_concat] at hsame
    by_cases hn : r = h.handles.length
    · by_cases hn' : r' = h.handles.length
      · rw [hn, hn']
      · rw [if_pos hn, if_neg hn'] at hsame
        exact absurd hsame.symm (hfresh r')
    · by_cases hn' : r' = h.handles.length
      · rw [if_neg hn, if_pos hn'] at hsame
        exact absurd hsame (hfresh r)
      · rw [if_neg hn] at hr hsame
        rw [if_neg hn'] at hr' hsame
        exact hm.apart r r' hr hr' hsame
  · intro n c hc
    unfold Hub.channelOf? at hc
    rw [getElem?_concat] at hc
    show c < (h.channels ++ [(⟨0⟩ : Channel)]).length
    rw [List.length_append, List.length_singleton]
    by_cases hn : n = h.handles.length
    · rw [if_pos hn] at hc
      cases hc
      exact Nat.lt_succ_self _
    · rw [if_neg hn] at hc
      exact Nat.lt_succ_of_lt (hm.channels n c hc)

theorem clone (hm : HandlesMatch log h) {source c : ℕ} (hc : h.channelOf? source = some c) :
    HandlesMatch (.cloned source h.handles.length :: log)
      { h with handles := h.handles ++ [c] } := by
  have horigin : ∀ n, origin? (.cloned source h.handles.length :: log) n =
      if n = h.handles.length then origin? log source else origin? log n := by
    intro n
    rw [origin?]
    by_cases hn : n = h.handles.length
    · rw [if_pos hn.symm, if_pos hn]
    · rw [if_neg (Ne.symm hn), if_neg hn]
  have hsource : source < h.handles.length := channelOf?_isSome_iff.mp (by rw [hc]; rfl)
  have hnot : ∀ {n r}, origin? log n = some r → r ≠ h.handles.length := by
    intro n r hr
    have hlt := (hm.lt_of_origin? hr).2
    omega
  -- the new handle goes back to another one
  have hroot : ∀ {r}, origin? (.cloned source h.handles.length :: log) r = some r →
      r ≠ h.handles.length ∧ origin? log r = some r := by
    intro r hr
    rw [horigin] at hr
    by_cases hn : r = h.handles.length
    · rw [if_pos hn] at hr
      exact absurd hn (hnot hr)
    · rw [if_neg hn] at hr
      exact ⟨hn, hr⟩
  constructor
  · exact hm.ids_concat rfl _
  · intro n
    rw [horigin, List.length_append, List.length_singleton]
    by_cases hn : n = h.handles.length
    · rw [if_pos hn, hm.known]
      omega
    · rw [if_neg hn, hm.known]
      omega
  · intro n r hr
    rw [horigin] at hr ⊢
    unfold Hub.channelOf?
    rw [getElem?_concat, getElem?_concat]
    by_cases hn : n = h.handles.length
    · rw [if_pos hn] at hr
      obtain ⟨hself, hsame⟩ := hm.origin source r hr
      rw [if_neg (hnot hr), if_neg (hnot hr), if_pos hn]
      exact ⟨hself, by rw [← hc]; exact hsame⟩
    · rw [if_neg hn] at hr
      rw [if_neg (hnot hr), if_neg (hnot hr), if_neg hn]
      exact hm.origin n r hr
  · intro r r' hr hr' hsame
    unfold Hub.channelOf? at hsame
    rw [getElem?_concat, getElem?_concat, if_neg (hroot hr).1, if_neg (hroot hr').1] at hsame
    exact hm.apart r r' (hroot hr).2 (hroot hr').2 hsame
  · intro n c' hc'
    unfold Hub.channelOf? at hc'
    rw [getElem?_concat] at hc'
    by_cases hn : n = h.handles.length
    · rw [if_pos hn] at hc'
      cases hc'
      exact hm.channels source c hc
    · rw [if_neg hn] at hc'
      exact hm.channels n c' hc'

/-- Nothing else that happens makes a handle. -/
theorem other (hm : HandlesMatch log h) {e : Event} (he : origin? (e :: log) = origin? log)
    (hids : handles (e :: log) = handles log) {h' : Hub}
    (hhandles : h'.handles = h.handles) (hchannels : h'.channels.length = h.channels.length) :
    HandlesMatch (e :: log) h' := by
  obtain ⟨hnumbers, hknown, horigin, hapart, hlt⟩ := hm
  unfold Hub.channelOf? at *
  rw [← hhandles] at hnumbers hknown horigin hapart hlt
  rw [← hchannels] at hlt
  constructor
  · rwa [hids]
  · rwa [he]
  · rwa [he]
  · rwa [he]
  · exact hlt

end HandlesMatch

namespace SubscribersMatch

variable {log : List Event} {h : Hub}

theorem length_ids (hm : SubscribersMatch log h) :
    (subscribers log).length = h.subscribers.length := by
  rw [hm.ids, List.length_reverse, List.length_range]

/-- What happens to handles leaves the subscribers as they are. -/
theorem handles (hm : SubscribersMatch log h) {e : Event}
    (he : (∃ n, e = .created n) ∨ ∃ source n, e = .cloned source n) {h' : Hub}
    (hsubscribers : h'.subscribers = h.subscribers)
    (hchannel : ∀ g c, h.channelOf? g = some c →
      h'.channelOf? g = some c ∧ h'.sentOn c = h.sentOn c) :
    SubscribersMatch (e :: log) h' := by
  have hids : subscribers (e :: log) = subscribers log := by
    rcases he with ⟨n, rfl⟩ | ⟨source, n, rfl⟩ <;> rfl
  have hthrough : through? (e :: log) = through? log := by
    rcases he with ⟨n, rfl⟩ | ⟨source, n, rfl⟩ <;> rfl
  have hgone : ∀ id, Event.dropped id ∈ e :: log ↔ Event.dropped id ∈ log := by
    rcases he with ⟨n, rfl⟩ | ⟨source, n, rfl⟩ <;> simp
  have hpending : ∀ id, pending id (e :: log) = pending id log := by
    rcases he with ⟨n, rfl⟩ | ⟨source, n, rfl⟩ <;> exact fun _ => rfl
  have hsubscriber : h'.subscriber? = h.subscriber? := by
    funext id
    unfold Hub.subscriber?
    rw [hsubscribers]
  refine ⟨?_, ?_, ?_, ?_, ?_⟩
  · rw [hids, hsubscribers, hm.ids]
  · intro id
    rw [hthrough, hsubscribers, hm.known]
  · intro id hid
    rw [hsubscribers]
    exact hm.gone id ((hgone id).mp hid)
  · intro id
    unfold Live
    rw [hthrough, hgone, hsubscriber]
    exact hm.live id
  · intro id s hs
    rw [hsubscriber] at hs
    obtain ⟨g, hg, hc, hsent⟩ := hm.stands id s hs
    obtain ⟨hc', hsent'⟩ := hchannel g s.channel hc
    exact ⟨g, by rw [hthrough]; exact hg, hc', by rw [hsent', hpending]; exact hsent⟩

theorem subscribe (hm : SubscribersMatch log h) {handle c : ℕ}
    (hc : h.channelOf? handle = some c) :
    SubscribersMatch (.subscribed handle h.subscribers.length :: log)
      { h with subscribers := h.subscribers ++ [some ⟨c, h.sentOn c⟩] } := by
  have hget : ∀ id, Hub.subscriber?
      { h with subscribers := h.subscribers ++ [some ⟨c, h.sentOn c⟩] } id =
        if id = h.subscribers.length then some ⟨c, h.sentOn c⟩ else h.subscriber? id := by
    intro id
    unfold Hub.subscriber?
    rw [getElem?_concat, apply_ite Option.join]
    rfl
  have hthrough : ∀ id, through? (.subscribed handle h.subscribers.length :: log) id =
      if id = h.subscribers.length then some handle else through? log id := by
    intro id
    rw [through?]
    by_cases hid : id = h.subscribers.length
    · rw [if_pos hid.symm, if_pos hid]
    · rw [if_neg (Ne.symm hid), if_neg hid]
  have hlength : (h.subscribers ++ [some (⟨c, h.sentOn c⟩ : Subscriber)]).length =
      h.subscribers.length + 1 := by simp
  constructor
  · show h.subscribers.length :: subscribers log = _
    rw [hlength, List.range_succ, List.reverse_append, hm.ids]
    rfl
  · intro id
    rw [hthrough, hlength]
    by_cases hid : id = h.subscribers.length
    · simp [hid]
    · rw [if_neg hid, hm.known]
      omega
  · intro id hid
    have hlt := hm.gone id (by simpa using hid)
    rw [hlength]
    omega
  · intro id
    unfold Live
    rw [hget, hthrough]
    by_cases hid : id = h.subscribers.length
    · have hnot : Event.dropped h.subscribers.length ∉ log := fun hgone =>
        Nat.lt_irrefl _ (hm.gone _ hgone)
      simp [hid, hnot]
    · rw [if_neg hid, if_neg hid, ← hm.live]
      simp [Live]
  · intro id s hs
    rw [hget] at hs
    rw [hthrough, pending]
    by_cases hid : id = h.subscribers.length
    · rw [if_pos hid] at hs
      cases hs
      rw [if_pos hid, if_pos hid.symm]
      exact ⟨handle, rfl, hc, rfl⟩
    · rw [if_neg hid] at hs
      rw [if_neg hid, if_neg (Ne.symm hid)]
      exact hm.stands id s hs

/-- A subscriber is reached through the handles that have its channel. -/
theorem reaches_iff (hm : SubscribersMatch log h) (hh : HandlesMatch log h) {handle c id : ℕ}
    {s : Subscriber} (hc : h.channelOf? handle = some c) (hs : h.subscriber? id = some s) :
    Reaches log handle id ↔ s.channel = c := by
  obtain ⟨g, hg, hchannel, -⟩ := hm.stands id s hs
  unfold Reaches
  rw [hg]
  constructor
  · rintro ⟨g', hg', hrelated⟩
    cases hg'
    rw [hh.related_iff hc, hchannel] at hrelated
    exact Option.some.inj hrelated
  · rintro rfl
    exact ⟨g, rfl, (hh.related_iff hc).mpr hchannel⟩

theorem listeners_ne_zero {id : ℕ} {s : Subscriber} (hs : h.subscriber? id = some s) :
    h.listeners s.channel ≠ 0 := by
  have hmem : some s ∈ h.subscribers := by
    unfold Hub.subscriber? at hs
    rw [Option.join_eq_some_iff] at hs
    exact List.mem_of_getElem? hs
  unfold Hub.listeners
  rw [← Nat.pos_iff_ne_zero, List.countP_pos_iff]
  exact ⟨some s, hmem, by simp⟩

theorem trigger (hm : SubscribersMatch log h) (hh : HandlesMatch log h) {handle c : ℕ}
    (hc : h.channelOf? handle = some c) :
    SubscribersMatch (.triggered handle :: log)
      (if h.listeners c = 0 then h
        else { h with channels := h.channels.modify c fun ch => ⟨ch.sent + 1⟩ }) := by
  have hkeeps : ∀ h' : Hub, h'.subscribers = h.subscribers → h'.handles = h.handles →
      (∀ id s, h.subscriber? id = some s →
        h'.sentOn s.channel = s.next + pending id (.triggered handle :: log)) →
      SubscribersMatch (.triggered handle :: log) h' := by
    intro h' hsubscribers hhandles hsent
    have hsubscriber : h'.subscriber? = h.subscriber? := by
      funext id
      unfold Hub.subscriber?
      rw [hsubscribers]
    refine ⟨?_, ?_, ?_, ?_, ?_⟩
    · rw [hsubscribers]
      exact hm.ids
    · intro id
      rw [hsubscribers]
      exact hm.known id
    · intro id hid
      rw [hsubscribers]
      exact hm.gone id (by simpa using hid)
    · intro id
      rw [hsubscriber, ← hm.live]
      simp [Live, through?]
    · intro id s hs
      rw [hsubscriber] at hs
      obtain ⟨g, hg, hchannel, -⟩ := hm.stands id s hs
      exact ⟨g, hg, by unfold Hub.channelOf? at *; rw [hhandles]; exact hchannel, hsent id s hs⟩
  have hlt := hh.channels handle c hc
  split
  · -- nobody listens, so nobody is left who waits for this signal
    rename_i hnobody
    refine hkeeps h rfl rfl fun id s hs => ?_
    have hne : s.channel ≠ c := fun heq => listeners_ne_zero hs (heq ▸ hnobody)
    obtain ⟨g, -, -, hsent⟩ := hm.stands id s hs
    rw [pending, if_neg (by rwa [hm.reaches_iff hh hc hs])]
    exact hsent
  · refine hkeeps _ rfl rfl fun id s hs => ?_
    obtain ⟨g, -, -, hsent⟩ := hm.stands id s hs
    rw [pending, Hub.sentOn_modify hlt]
    by_cases heq : s.channel = c
    · rw [if_pos heq, if_pos ((hm.reaches_iff hh hc hs).mpr heq), hsent, Nat.add_assoc]
    · rw [if_neg heq, if_neg (by rwa [hm.reaches_iff hh hc hs])]
      exact hsent

/-- What happens to one subscriber leaves the others as they are. -/
theorem change (hm : SubscribersMatch log h) {id : ℕ} {s : Subscriber}
    (hs : h.subscriber? id = some s) (x : Option Subscriber) {e : Event}
    (hids : subscribers (e :: log) = subscribers log)
    (hthrough : through? (e :: log) = through? log)
    (hgone : ∀ i, Event.dropped i ∈ e :: log ↔ Event.dropped i ∈ log ∨ i = id ∧ x = none)
    (hothers : ∀ i, i ≠ id → pending i (e :: log) = pending i log)
    (hx : ∀ s', x = some s' →
      s'.channel = s.channel ∧ h.sentOn s.channel = s'.next + pending id (e :: log)) :
    SubscribersMatch (e :: log) { h with subscribers := h.subscribers.set id x } := by
  have hlive := (hm.live id).mpr (by rw [hs]; rfl)
  have hlt : id < h.subscribers.length := (hm.known id).mp hlive.1
  have hget : ∀ i, Hub.subscriber? { h with subscribers := h.subscribers.set id x } i =
      if i = id then x else h.subscriber? i := by
    intro i
    unfold Hub.subscriber?
    rw [List.getElem?_set, if_pos hlt]
    by_cases hi : i = id
    · rw [if_pos hi.symm, if_pos hi]
      rfl
    · rw [if_neg (Ne.symm hi), if_neg hi]
  have hlength : (h.subscribers.set id x).length = h.subscribers.length := List.length_set
  constructor
  · rw [hids, hlength, hm.ids]
  · intro i
    rw [hthrough, hlength, hm.known]
  · intro i hi
    rw [hlength]
    rcases (hgone i).mp hi with hi | ⟨rfl, -⟩
    · exact hm.gone i hi
    · exact hlt
  · intro i
    unfold Live
    rw [hthrough, hgone, hget]
    by_cases hi : i = id
    · subst hi
      rw [if_pos rfl]
      cases x with
      | none => simp
      | some s' => simpa [Live] using hlive
    · rw [if_neg hi, ← hm.live]
      simp [Live, hi]
  · intro i s' hs'
    rw [hget] at hs'
    rw [hthrough]
    by_cases hi : i = id
    · subst hi
      rw [if_pos rfl] at hs'
      obtain ⟨hchannel, hsent⟩ := hx s' hs'
      obtain ⟨g, hg, hc, -⟩ := hm.stands i s hs
      exact ⟨g, hg, by rw [hchannel]; exact hc, by rw [hchannel]; exact hsent⟩
    · rw [if_neg hi] at hs'
      rw [hothers i hi]
      exact hm.stands i s' hs'

theorem drop (hm : SubscribersMatch log h) {id : ℕ} {s : Subscriber}
    (hs : h.subscriber? id = some s) : SubscribersMatch (.dropped id :: log) (h.drop id) := by
  apply hm.change hs none
  · rfl
  · rfl
  · intro i
    simp [or_comm]
  · intro i _
    rfl
  · intro s' hs'
    cases hs'

/-- A subscriber finds what is pending, and at most one signal is left to be seen. -/
theorem look_eq (hm : SubscribersMatch log h) {id : ℕ} {s : Subscriber}
    (hs : h.subscriber? id = some s) :
    h.look s = (.ofPending (pending id log),
      s.next + (pending id log - if 1 < pending id log then 1 else 0)) := by
  obtain ⟨g, -, -, hsent⟩ := hm.stands id s hs
  unfold Hub.look
  dsimp only
  rw [hsent]
  match pending id log with
  | 0 => simp [Received.ofPending]
  | 1 => simp [Received.ofPending]
  | n + 2 =>
    rw [if_neg (by omega), if_neg (by omega), if_pos (by omega), Received.ofPending]
    simp

theorem receive (hm : SubscribersMatch log h) {id : ℕ} {s : Subscriber}
    (hs : h.subscriber? id = some s) :
    SubscribersMatch (.received id (h.look s).1 :: log)
      { h with subscribers := h.subscribers.set id (some { s with next := (h.look s).2 }) } := by
  obtain ⟨g, -, -, hsent⟩ := hm.stands id s hs
  apply hm.change hs
  · rfl
  · rfl
  · intro i
    simp
  · intro i hi
    cases (h.look s).1 <;> simp [pending, Ne.symm hi]
  · rintro s' hs'
    cases hs'
    refine ⟨rfl, ?_⟩
    rw [hm.look_eq hs, hsent, pending_received]
    dsimp only
    split <;> omega

end SubscribersMatch

/-! ## Runs -/

namespace Sound

variable {log : List Event} {h : Hub}

theorem isSome_origin? (hsound : Sound log h) (handle : ℕ) :
    (origin? log handle).isSome = (h.channelOf? handle).isSome := by
  rw [Bool.eq_iff_iff, hsound.handles.known, HandlesMatch.channelOf?_isSome_iff]

/-- Nothing has to happen without such a handle or subscriber. -/
theorem happens_of_misses (hsound : Sound log h) {c : Call} (hmiss : h.Misses c) :
    happens log c = none := by
  cases c with
  | create => exact hmiss.elim
  | clone handle | subscribe handle | trigger handle =>
    have hc : h.channelOf? handle = none := hmiss
    rw [happens, hsound.isSome_origin?, hc]
    rfl
  | drop id | receive id =>
    have hid : h.subscriber? id = none := hmiss
    refine if_neg fun hlive => ?_
    rw [hsound.subscribers.live, hid] at hlive
    cases hlive

/-- A call does to a hub what has to happen. -/
theorem happens_eq (hsound : Sound log h) (c : Call) : (h.perform c).1 = happens log c := by
  by_cases hmiss : h.Misses c
  · rw [Hub.perform_of_misses hmiss, hsound.happens_of_misses hmiss]
  have hhandles := hsound.handles.length_ids
  have hsubscribers := hsound.subscribers.length_ids
  have hlive := hsound.subscribers.live
  cases c with
  | create => rw [Hub.perform_create, happens, hhandles]
  | clone handle =>
    obtain ⟨c, hc⟩ := Option.ne_none_iff_exists'.mp hmiss
    rw [Hub.perform_clone hc, happens, hsound.isSome_origin?, hc, hhandles]
    rfl
  | subscribe handle =>
    obtain ⟨c, hc⟩ := Option.ne_none_iff_exists'.mp hmiss
    rw [Hub.perform_subscribe hc, happens, hsound.isSome_origin?, hc, hsubscribers]
    rfl
  | trigger handle =>
    obtain ⟨c, hc⟩ := Option.ne_none_iff_exists'.mp hmiss
    rw [Hub.perform_trigger hc, happens, hsound.isSome_origin?, hc]
    rfl
  | drop id =>
    obtain ⟨s, hid⟩ := Option.ne_none_iff_exists'.mp hmiss
    rw [Hub.perform_drop hid, happens, if_pos ((hlive id).mpr (by rw [hid]; rfl))]
  | receive id =>
    obtain ⟨s, hid⟩ := Option.ne_none_iff_exists'.mp hmiss
    rw [Hub.perform_receive hid, happens, if_pos ((hlive id).mpr (by rw [hid]; rfl)),
      hsound.subscribers.look_eq hid]

end Sound

/-- A call keeps the hub in accord with what happens. -/
theorem Sound.perform {log : List Event} {h : Hub} (hsound : Sound log h) (c : Call) :
    Sound ((h.perform c).1.toList ++ log) (h.perform c).2 := by
  obtain ⟨hh, hs⟩ := hsound
  by_cases hmiss : h.Misses c
  · rw [Hub.perform_of_misses hmiss]
    exact ⟨hh, hs⟩
  cases c with
  | create =>
    refine ⟨hh.create, hs.handles (.inl ⟨_, rfl⟩) rfl fun g c hc => ⟨?_, ?_⟩⟩
    · exact Hub.getElem?_handles_append hc _
    · rw [Hub.perform_create]
      unfold Hub.sentOn
      rw [List.getElem?_append_left (hh.channels g c hc)]
  | clone handle =>
    obtain ⟨c, hc⟩ := Option.ne_none_iff_exists'.mp hmiss
    rw [Hub.perform_clone hc]
    refine ⟨hh.clone hc, hs.handles (.inr ⟨_, _, rfl⟩) rfl fun g c hc => ⟨?_, rfl⟩⟩
    exact Hub.getElem?_handles_append hc _
  | subscribe handle =>
    obtain ⟨c, hc⟩ := Option.ne_none_iff_exists'.mp hmiss
    rw [Hub.perform_subscribe hc]
    exact ⟨hh.other rfl rfl rfl rfl, hs.subscribe hc⟩
  | trigger handle =>
    obtain ⟨c, hc⟩ := Option.ne_none_iff_exists'.mp hmiss
    rw [Hub.perform_trigger hc]
    refine ⟨hh.other rfl rfl ?_ ?_, hs.trigger hh hc⟩
    · split <;> rfl
    · split
      · rfl
      · exact List.length_modify ..
  | drop id =>
    obtain ⟨s, hid⟩ := Option.ne_none_iff_exists'.mp hmiss
    rw [Hub.perform_drop hid]
    exact ⟨hh.other rfl rfl rfl rfl, hs.drop hid⟩
  | receive id =>
    obtain ⟨s, hid⟩ := Option.ne_none_iff_exists'.mp hmiss
    rw [Hub.perform_receive hid]
    exact ⟨hh.other rfl rfl rfl rfl, hs.receive hid⟩

/-- **History.** After any calls the hub is what their history tells: it did what had to happen. -/
theorem Hub.sound_after (calls : List Call) : Sound (history calls) (Hub.after calls) := by
  induction calls using List.reverseRecOn with
  | nil =>
    refine ⟨⟨rfl, fun n => ?_, nofun, nofun, nofun⟩, rfl, fun id => ?_, nofun, fun id => ?_, nofun⟩
    · exact iff_of_false Bool.false_ne_true (Nat.not_lt_zero n)
    · exact iff_of_false Bool.false_ne_true (Nat.not_lt_zero id)
    · exact iff_of_false (fun h => Bool.false_ne_true h.1) Bool.false_ne_true
  | append_singleton calls c ih =>
    rw [history_concat, ← ih.happens_eq, Hub.after_concat]
    exact ih.perform c

/-- What happens by a call is what the hub does. -/
theorem history_concat_perform (calls : List Call) (c : Call) :
    history (calls ++ [c]) = ((Hub.after calls).perform c).1.toList ++ history calls := by
  rw [history_concat, (Hub.sound_after calls).happens_eq]

end Detour.Shutdown
