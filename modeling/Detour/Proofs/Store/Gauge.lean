import Detour.Proofs.Store.Interleaving

/-!
# The gauge of a shared store

A change writes its rules in one turn and publishes their number in another. The gauge shows what
was published last, and others may write in between: when all calls came to their end it may be the
number of rules that stand in the cell no more (`SharedStore.gauge_left_behind`). It is the number
of the rules after the write of the call that published last, and right if nobody wrote between that
write and its publication (`SharedStore.gauge_settles`).
-/

namespace Detour

/-- The numbers that went to the gauge, in their order. -/
def publishedBy (deeds : List Deed) : List ℕ :=
  deeds.filterMap fun d =>
    match d.effect with
    | .published n => some n
    | _ => none

section Deeds

variable {deeds : List Deed} {i : ℕ} {e : Effect}

theorem mem_effectsOf : e ∈ effectsOf i deeds ↔ ⟨i, e⟩ ∈ deeds := by
  unfold effectsOf
  rw [List.mem_filterMap]
  constructor
  · rintro ⟨⟨caller, effect⟩, hd, he⟩
    obtain ⟨rfl, rfl⟩ : caller = i ∧ effect = e := by simpa using he
    exact hd
  · intro hd
    exact ⟨⟨i, e⟩, hd, if_pos rfl⟩

theorem mem_publishedBy {n : ℕ} (h : ⟨i, .published n⟩ ∈ deeds) : n ∈ publishedBy deeds :=
  List.mem_filterMap.mpr ⟨_, h, rfl⟩

theorem publishedBy_append (a b : List Deed) :
    publishedBy (a ++ b) = publishedBy a ++ publishedBy b := List.filterMap_append

theorem mem_changesOf {c : Change} {rules : List Rule} (h : ⟨i, .wrote c rules⟩ ∈ deeds) :
    c ∈ changesOf deeds := List.mem_filterMap.mpr ⟨_, h, rfl⟩

theorem exists_of_mem_changesOf {c : Change} (h : c ∈ changesOf deeds) :
    ∃ i rules, ⟨i, .wrote c rules⟩ ∈ deeds := by
  obtain ⟨⟨i, effect⟩, hd, hc⟩ := List.mem_filterMap.mp h
  cases effect with
  | wrote c' rules => cases hc; exact ⟨i, rules, hd⟩
  | read rules => cases hc
  | published n => cases hc

/-- Where the last publication stands among all deeds. -/
theorem exists_of_getLast?_publishedBy {n : ℕ} (h : (publishedBy deeds).getLast? = some n) :
    ∃ before i later, deeds = before ++ ⟨i, .published n⟩ :: later ∧ publishedBy later = [] := by
  obtain ⟨earlier, hpublished⟩ := List.getLast?_eq_some_iff.mp h
  obtain ⟨before, rest, rfl, -, hrest⟩ := List.filterMap_eq_append_iff.mp hpublished
  obtain ⟨silent, ⟨i, effect⟩, later, rfl, -, hd, hlater⟩ := List.filterMap_eq_cons_iff.mp hrest
  refine ⟨before ++ silent, i, later, ?_, hlater⟩
  cases effect with
  | published m => cases hd; exact (List.append_assoc ..).symm
  | read rules => cases hd
  | wrote c rules => cases hd

end Deeds

/-- A call that came to its end did nothing, read, or wrote and published what it wrote. -/
theorem Caller.Fits.effects_of_isReturned {cell : Content} {own : List Effect} {caller : Caller}
    (h : caller.Fits cell own) (hend : caller.isReturned = true) :
    own = [] ∨ (∃ rules, own = [.read rules]) ∨
      ∃ c rules, own = [.wrote c rules, .published rules.length] := by
  cases caller with
  | change c stage =>
    have hstage : stage.Fits c cell own := h
    cases hstage with
    | refused hwrite => exact .inl rfl
    | returned hwrite => exact .inr (.inr ⟨c, _, rfl⟩)
    | _ => cases hend
  | reader q stage =>
    have hstage : stage.Fits q own := h
    cases hstage with
    | returned => exact .inr (.inl ⟨_, rfl⟩)
    | _ => cases hend

namespace SharedStore

variable {start : Store} {deeds : List Deed} {s : SharedStore}

theorem gauge_perform (s : SharedStore) (t : Turn) : (s.perform t).2.gauge =
    (publishedBy (s.perform t).1.toList).getLast?.or s.gauge := by
  cases t with
  | change c => rfl
  | read q => rfl
  | go i =>
    cases hi : s.callers[i]? with
    | none => rw [perform_go_none hi]; rfl
    | some caller =>
      rw [perform_go hi]
      cases (caller.next s.cell).1 with
      | none => rfl
      | some e => cases e <;> rfl

/-- The gauge shows what was published last. -/
theorem gauge_after (start : Store) (turns : List Turn) :
    ((ofStore start).after turns).gauge =
      (publishedBy ((ofStore start).deeds turns)).getLast?.or start.gauge := by
  refine Run.replies_induction SharedStore.perform (P := fun said s =>
    s.gauge = (publishedBy (said.flatMap Option.toList)).getLast?.or start.gauge) rfl ?_ turns
  intro said s t hs
  rw [List.flatMap_append, List.flatMap_singleton, publishedBy_append, List.getLast?_append,
    Option.or_assoc, ← hs]
  exact gauge_perform s t

/-- Who published wrote before. -/
theorem Sound.wrote_of_published (h : Sound start deeds s) {before later : List Deed} {i n : ℕ}
    (hdeeds : deeds = before ++ ⟨i, .published n⟩ :: later) :
    ∃ earlier c rules between, before = earlier ++ ⟨i, .wrote c rules⟩ :: between ∧
      n = rules.length ∧ rules = content start (earlier ++ [⟨i, .wrote c rules⟩]) := by
  have hdue := h.due before _ later hdeeds
  generalize hown : effectsOf i before = own at hdue
  cases hdue with
  | @published c rules howns =>
    obtain ⟨earlier, between, hbefore, -, -⟩ := exists_of_effectsOf_eq_cons (hown.trans howns)
    rw [hbefore, List.append_assoc] at hdeeds
    refine ⟨earlier, c, rules, between, hbefore, rfl, ?_⟩
    have hwrote := h.due earlier _ _ hdeeds
    cases hwrote with
    | wrote hwrite hnone => rw [content_wrote hwrite]

/-- When all calls came to their end, each write was followed by its publication. -/
theorem Sound.published_of_wrote (h : Sound start deeds s)
    (hreturned : ∀ caller ∈ s.callers, caller.isReturned = true) {before later : List Deed} {i : ℕ}
    {c : Change} {rules : List Rule} (hdeeds : deeds = before ++ ⟨i, .wrote c rules⟩ :: later) :
    ⟨i, .published rules.length⟩ ∈ later := by
  have hown : effectsOf i deeds = effectsOf i before ++ .wrote c rules :: effectsOf i later := by
    rw [hdeeds, effectsOf_append]
    simp [effectsOf]
  have hi : i < s.callers.length := by
    by_contra hge
    rw [h.strangers i (Nat.le_of_not_lt hge)] at hown
    simp at hown
  have hfits := h.callers i s.callers[i] (List.getElem?_eq_getElem hi)
  have hend := hreturned _ (List.getElem_mem hi)
  obtain hnone | ⟨read, hread⟩ | ⟨c', written, hwritten⟩ := hfits.effects_of_isReturned hend
  · rw [hown] at hnone
    simp at hnone
  · rw [hown, List.append_eq_singleton_iff] at hread
    simp at hread
  · rw [hown, List.append_eq_cons_iff] at hwritten
    obtain ⟨-, hwritten⟩ | ⟨rest, -, hrest⟩ := hwritten
    · obtain ⟨hwrote, hpublished⟩ := List.cons_eq_cons.mp hwritten
      cases hwrote
      exact mem_effectsOf.mp (hpublished ▸ List.mem_singleton_self _)
    · rw [eq_comm, List.append_eq_singleton_iff] at hrest
      simp at hrest

/-- When all calls came to their end, nothing is written without being published later. -/
theorem Sound.changesOf_eq_nil (h : Sound start deeds s)
    (hreturned : ∀ caller ∈ s.callers, caller.isReturned = true) {before later : List Deed}
    (hdeeds : deeds = before ++ later) (hsilent : publishedBy later = []) :
    changesOf later = [] := by
  rw [List.eq_nil_iff_forall_not_mem]
  intro c hc
  obtain ⟨i, rules, hwrote⟩ := exists_of_mem_changesOf hc
  obtain ⟨a, b, rfl⟩ := List.append_of_mem hwrote
  rw [← List.append_assoc] at hdeeds
  have hpublished := h.published_of_wrote hreturned hdeeds
  have hmem : rules.length ∈ publishedBy (a ++ ⟨i, .wrote c rules⟩ :: b) :=
    mem_publishedBy (List.mem_append_right a (List.mem_cons_of_mem _ hpublished))
  rw [hsilent] at hmem
  cases hmem

/-- **The gauge.** It shows what was published last. When all calls came to their end and some
change wrote, the last publication is of the number of rules after the write of the same call, and
no change wrote after it; so the gauge is right if none wrote between that write and that
publication. -/
theorem gauge_settles (start : Store) (turns : List Turn) :
    let now := (ofStore start).after turns
    let deeds := (ofStore start).deeds turns
    now.gauge = (publishedBy deeds).getLast?.or start.gauge ∧
    ((∀ caller ∈ now.callers, caller.isReturned = true) →
      (changesOf deeds = [] → now.gauge = start.gauge ∧ now.cell.rules = start.rules) ∧
      (changesOf deeds ≠ [] → ∃ before i c rules between later,
        deeds = before ++ ⟨i, .wrote c rules⟩ :: between ++ ⟨i, .published rules.length⟩ :: later ∧
        changesOf later = [] ∧ now.gauge = some rules.length ∧
        rules = content start (before ++ [⟨i, .wrote c rules⟩]) ∧
        (changesOf between = [] → now.gauge = some now.cell.rules.length))) := by
  intro now deeds
  have hsound : Sound start deeds now := sound_after start turns
  have hgauge : now.gauge = (publishedBy deeds).getLast?.or start.gauge := gauge_after start turns
  refine ⟨hgauge, fun hreturned => ?_⟩
  cases hlast : (publishedBy deeds).getLast? with
  | none =>
    have hnone : changesOf deeds = [] :=
      hsound.changesOf_eq_nil hreturned (List.nil_append deeds).symm
        (List.getLast?_eq_none_iff.mp hlast)
    refine ⟨fun _ => ⟨by rw [hgauge, hlast]; rfl, ?_⟩, fun hsome => absurd hnone hsome⟩
    rw [hsound.rules, content, hnone]
    rfl
  | some n =>
    obtain ⟨before, i, later, hdeeds, hlater⟩ := exists_of_getLast?_publishedBy hlast
    obtain ⟨earlier, c, rules, between, rfl, rfl, hrules⟩ := hsound.wrote_of_published hdeeds
    have hwrote : ⟨i, .wrote c rules⟩ ∈ deeds := by rw [hdeeds]; simp
    have hquiet : changesOf later = [] :=
      hsound.changesOf_eq_nil hreturned (hdeeds.trans (List.append_cons ..)) hlater
    have hshown : now.gauge = some rules.length := by rw [hgauge, hlast]; rfl
    refine ⟨fun hnone => ?_, fun _ => ⟨earlier, i, c, rules, between, later, hdeeds, hquiet, hshown,
      hrules, fun hbetween => ?_⟩⟩
    · have hmem := mem_changesOf hwrote
      rw [hnone] at hmem
      cases hmem
    · have hsilent : changesOf (between ++ ⟨i, .published rules.length⟩ :: later) = [] := by
        rw [changesOf_append, hbetween]
        exact hquiet
      have hcell : now.cell.rules = rules := by
        rw [hsound.rules, hdeeds, List.append_assoc, List.cons_append, List.append_cons,
          content_append_of_silent hsilent, ← hrules]
      rw [hshown, hcell]

/-! ## Two calls -/

def slash : RawRule := ⟨none, some (.string "/"), some (.string "/"), none⟩

/-- Two calls add a rule each. The first one writes before the other and publishes after it. -/
def crossing : List Turn :=
  [.change (.tryRegister slash), .change (.tryRegister slash), .go 0, .go 0, .go 0, .go 0,
    .go 1, .go 1, .go 1, .go 1, .go 1, .go 0]

/-- All calls came to their end, and the gauge shows one rule of two. -/
theorem gauge_left_behind :
    let now := (ofStore .empty).after crossing
    (∀ caller ∈ now.callers, caller.isReturned = true) ∧ now.gauge = some 1 ∧
      now.cell.rules.length = 2 := by
  decide +kernel

end SharedStore

end Detour
