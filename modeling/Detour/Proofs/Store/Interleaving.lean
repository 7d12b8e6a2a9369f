import Detour.Proofs.Store.Shared

/-!
# Turns in any order

How far a call is tells what it did (`Caller.Fits`), and each turn of a call does what is due by
then (`Caller.Fits.next`). So after every run the cell holds what the changes that wrote make of the
rules at the start, one after the other, and nothing is lost (`SharedStore.writes_in_order`).
-/

namespace Detour

/-! ## How far a call is, and what it did -/

/-- A value that stood in the cell. -/
structure Content.IsPast (seen cell : Content) : Prop where
  le : seen.number ≤ cell.number
  rules_eq : seen.number = cell.number → seen.rules = cell.rules

/-- A call of a change is as far as its effects tell. -/
inductive ChangeStage.Fits (c : Change) (cell : Content) :
    List Effect → ChangeStage → Prop where
  | asked : Fits c cell [] asked
  | refused (hwrite : c.write? = none) : Fits c cell [] (returned c.reply)
  | reading {rule : Rule} {loaded : ℕ} (hwrite : c.write? = some (.add rule)) :
      Fits c cell [] (reading rule loaded)
  | copying {rule : Rule} {loaded : ℕ} {seen : Content} (hwrite : c.write? = some (.add rule))
      (hseen : seen.IsPast cell) : Fits c cell [] (copying rule loaded seen)
  | swapping {rule : Rule} {seen : Content} (hwrite : c.write? = some (.add rule))
      (hseen : seen.IsPast cell) :
      Fits c cell []
        (swapping rule (seen.rules ++ [rule]).length seen.number (seen.rules ++ [rule]))
  | storing {rules : List Rule} (hwrite : c.write? = some (.put rules)) :
      Fits c cell [] (storing rules)
  | publishing {rules : List Rule} (hwrite : c.write?.isSome) :
      Fits c cell [.wrote c rules] (publishing rules.length)
  | returned {rules : List Rule} (hwrite : c.write?.isSome) :
      Fits c cell [.wrote c rules, .published rules.length] (returned c.reply)

/-- A reader is as far as its effects tell. -/
inductive ReaderStage.Fits (q : Reader) : List Effect → ReaderStage → Prop where
  | asked : Fits q [] asked
  | holding {rules : List Rule} : Fits q [.read rules] (holding rules)
  | returned {rules : List Rule} : Fits q [.read rules] (returned (q.use rules))

/-- A call is as far as its effects tell. -/
def Caller.Fits (cell : Content) (own : List Effect) : Caller → Prop
  | change c stage => stage.Fits c cell own
  | reader q stage => stage.Fits q own

theorem Content.isPast_refl (cell : Content) : cell.IsPast cell := ⟨Nat.le_refl _, fun _ => rfl⟩

/-- What stood in the cell once is not taken for what a later write put there. -/
theorem Content.IsPast.effect {seen cell : Content} (h : seen.IsPast cell) (e : Effect) :
    seen.IsPast (e.cell cell) := by
  cases e with
  | read rules => exact h
  | published n => exact h
  | wrote c rules =>
    have hlt : seen.number < cell.number + 1 := Nat.lt_succ_of_le h.le
    exact ⟨Nat.le_of_lt hlt, fun heq => absurd heq (Nat.ne_of_lt hlt)⟩

theorem ChangeStage.Fits.effect {c : Change} {cell : Content} {own : List Effect}
    {stage : ChangeStage} (h : stage.Fits c cell own) (e : Effect) :
    stage.Fits c (e.cell cell) own := by
  cases h with
  | asked => exact .asked
  | refused hwrite => exact .refused hwrite
  | reading hwrite => exact .reading hwrite
  | copying hwrite hseen => exact .copying hwrite (hseen.effect e)
  | swapping hwrite hseen => exact .swapping hwrite (hseen.effect e)
  | storing hwrite => exact .storing hwrite
  | publishing hwrite => exact .publishing hwrite
  | returned hwrite => exact .returned hwrite

/-- The turns of others do not change how far a call is. -/
theorem Caller.Fits.effect {cell : Content} {own : List Effect} {caller : Caller}
    (h : caller.Fits cell own) (e : Effect) : caller.Fits (e.cell cell) own := by
  cases caller with
  | change c stage => exact ChangeStage.Fits.effect h e
  | reader q stage => exact h

/-- A turn has no effect, or one that is due, and the call is as far as it tells then. -/
def Turned (cell : Content) (own : List Effect) (effect : Option Effect) (caller : Caller) :
    Prop :=
  match effect with
  | none => caller.Fits cell own
  | some e => Due cell.rules own e ∧ caller.Fits (e.cell cell) (own ++ [e])

theorem ChangeStage.Fits.next {c : Change} {cell : Content} {own : List Effect}
    {stage : ChangeStage} (h : stage.Fits c cell own) :
    Turned cell own (stage.next c cell).1 (.change c (stage.next c cell).2) := by
  cases h with
  | asked =>
    unfold ChangeStage.next
    cases hwrite : c.write? with
    | none => exact .refused hwrite
    | some w =>
      cases w with
      | add rule => exact .reading hwrite
      | put rules => exact .storing hwrite
  | refused hwrite => exact .refused hwrite
  | reading hwrite => exact .copying hwrite cell.isPast_refl
  | copying hwrite hseen => exact .swapping hwrite hseen
  | @swapping rule seen hwrite hseen =>
    dsimp only [ChangeStage.next]
    by_cases hnumber : seen.number = cell.number
    · -- nothing was written since the read, so the copy is one of what stands in the cell
      rw [if_pos hnumber, hseen.rules_eq hnumber]
      exact ⟨.wrote hwrite rfl, .publishing (by rw [hwrite]; rfl)⟩
    · rw [if_neg hnumber]
      exact .reading hwrite
  | storing hwrite => exact ⟨.wrote hwrite rfl, .publishing (by rw [hwrite]; rfl)⟩
  | publishing hwrite => exact ⟨.published rfl, .returned hwrite⟩
  | returned hwrite => exact .returned hwrite

theorem ReaderStage.Fits.next {q : Reader} {cell : Content} {own : List Effect}
    {stage : ReaderStage} (h : stage.Fits q own) :
    Turned cell own (stage.next q cell).1 (.reader q (stage.next q cell).2) := by
  cases h with
  | asked => exact ⟨.read rfl, .holding⟩
  | holding => exact .returned
  | returned => exact .returned

/-- What is due is done, and nothing else. -/
theorem Caller.Fits.next {cell : Content} {own : List Effect} {caller : Caller}
    (h : caller.Fits cell own) : Turned cell own (caller.next cell).1 (caller.next cell).2 := by
  cases caller with
  | change c stage => exact ChangeStage.Fits.next h
  | reader q stage => exact ReaderStage.Fits.next h

/-! ## What holds after every turn -/

/-- The cell holds what the writes owe, all calls are as far as their effects tell, and every effect
was due when it came. -/
structure SharedStore.Sound (start : Store) (deeds : List Deed) (s : SharedStore) : Prop where
  rules : s.cell.rules = content start deeds
  callers : ∀ i (caller : Caller), s.callers[i]? = some caller →
    caller.Fits s.cell (effectsOf i deeds)
  strangers : ∀ i, s.callers.length ≤ i → effectsOf i deeds = []
  due : ∀ before d later, deeds = before ++ d :: later →
    Due (content start before) (effectsOf d.caller before) d.effect

namespace SharedStore

variable {start : Store} {deeds : List Deed} {s : SharedStore}

theorem sound_ofStore (start : Store) : Sound start [] (ofStore start) where
  rules := rfl
  callers _ _ h := by cases h
  strangers _ _ := rfl
  due before d later h := by simp at h

/-- A new call did nothing yet. -/
theorem Sound.call (h : Sound start deeds s) {caller : Caller} (hcaller : caller.Fits s.cell []) :
    Sound start deeds { s with callers := s.callers ++ [caller] } where
  rules := h.rules
  callers i other hother := by
    obtain hi | hi := Nat.lt_or_ge i s.callers.length
    · rw [List.getElem?_append_left hi] at hother
      exact h.callers i other hother
    · rw [List.getElem?_append_right hi, List.getElem?_singleton] at hother
      obtain ⟨-, hcalled⟩ := Option.ite_none_right_eq_some.mp hother
      obtain rfl := Option.some.inj hcalled
      rw [h.strangers i hi]
      exact hcaller
  strangers i hi := by
    rw [List.length_append] at hi
    exact h.strangers i (Nat.le_of_add_right_le hi)
  due := h.due

theorem eq_or_getElem?_of_set {callers : List Caller} {i j : ℕ} {caller other : Caller}
    (h : (callers.set i caller)[j]? = some other) :
    i = j ∧ caller = other ∨ i ≠ j ∧ callers[j]? = some other := by
  rw [List.getElem?_set] at h
  split at h
  · next hij =>
    obtain ⟨-, hcaller⟩ := Option.ite_none_right_eq_some.mp h
    exact .inl ⟨hij, Option.some.inj hcaller⟩
  · next hij => exact .inr ⟨hij, h⟩

/-- The turn of a call that has no effect. -/
theorem Sound.pass (h : Sound start deeds s) {i : ℕ} {caller : Caller}
    (hcaller : caller.Fits s.cell (effectsOf i deeds)) :
    Sound start deeds { s with callers := s.callers.set i caller } where
  rules := h.rules
  callers j other hother := by
    obtain ⟨rfl, rfl⟩ | ⟨-, hother⟩ := eq_or_getElem?_of_set hother
    · exact hcaller
    · exact h.callers j other hother
  strangers j hj := h.strangers j (by rwa [List.length_set] at hj)
  due := h.due

/-- The turn of a call that has an effect. -/
theorem Sound.act (h : Sound start deeds s) {i : ℕ} (hi : i < s.callers.length) {e : Effect}
    (hdue : Due s.cell.rules (effectsOf i deeds) e) {caller : Caller}
    (hcaller : caller.Fits (e.cell s.cell) (effectsOf i deeds ++ [e])) :
    Sound start (deeds ++ [⟨i, e⟩])
      ⟨e.cell s.cell, e.gauge s.gauge, s.callers.set i caller⟩ where
  rules := content_concat h.rules hdue
  callers j other hother := by
    obtain ⟨rfl, rfl⟩ | ⟨hne, hother⟩ := eq_or_getElem?_of_set hother
    · rw [effectsOf_concat_self]
      exact hcaller
    · rw [effectsOf_concat_of_ne hne]
      exact (h.callers j other hother).effect e
  strangers j hj := by
    rw [List.length_set] at hj
    rw [effectsOf_concat_of_ne (by omega), h.strangers j hj]
  due before d later hsplit := by
    obtain rfl | ⟨later, d', rfl⟩ := List.eq_nil_or_concat' later
    · obtain ⟨rfl, hd⟩ := List.append_inj' hsplit rfl
      obtain rfl := List.singleton_inj.mp hd
      rwa [← h.rules]
    · rw [← List.cons_append, ← List.append_assoc] at hsplit
      exact h.due before d later (List.append_inj' hsplit rfl).1

/-- One turn. -/
theorem Sound.perform (h : Sound start deeds s) (t : Turn) :
    Sound start (deeds ++ (s.perform t).1.toList) (s.perform t).2 := by
  cases t with
  | change c =>
    have hnew : Caller.Fits s.cell [] (.change c .asked) := .asked
    rw [perform_change, Option.toList_none, List.append_nil]
    exact h.call hnew
  | read q =>
    have hnew : Caller.Fits s.cell [] (.reader q .asked) := .asked
    rw [perform_read, Option.toList_none, List.append_nil]
    exact h.call hnew
  | go i =>
    cases hi : s.callers[i]? with
    | none =>
      rw [perform_go_none hi, Option.toList_none, List.append_nil]
      exact h
    | some caller =>
      have hturned := (h.callers i caller hi).next
      rw [perform_go hi]
      cases heffect : (caller.next s.cell).1 with
      | none =>
        rw [heffect] at hturned
        rw [Option.map_none, Option.toList_none, List.append_nil]
        exact h.pass hturned
      | some e =>
        rw [heffect] at hturned
        exact h.act (List.getElem?_eq_some_iff.mp hi).1 hturned.1 hturned.2

/-- A run. -/
theorem sound_after (start : Store) (turns : List Turn) :
    Sound start ((ofStore start).deeds turns) ((ofStore start).after turns) := by
  refine Run.replies_induction SharedStore.perform
    (P := fun said s => Sound start (said.flatMap Option.toList) s) (sound_ofStore start) ?_ turns
  intro said s t h
  rw [List.flatMap_append, List.flatMap_singleton]
  exact h.perform t

/-! ## What callers find -/

/-- A reader that returned read the cell once and used what it read. -/
theorem Sound.reader_returned (h : Sound start deeds s) {i : ℕ} {q : Reader} {seen : Seen}
    (hi : s.callers[i]? = some (.reader q (.returned seen))) :
    ∃ before later, deeds = before ++ ⟨i, .read (content start before)⟩ :: later ∧
      effectsOf i deeds = [.read (content start before)] ∧
      seen = q.use (content start before) := by
  have hfits : ReaderStage.Fits q (effectsOf i deeds) (.returned seen) := h.callers i _ hi
  generalize hown : effectsOf i deeds = own at hfits
  cases hfits with
  | @returned rules =>
    obtain ⟨before, later, hdeeds, -, -⟩ := exists_of_effectsOf_eq_cons hown
    have hdue := h.due before _ later hdeeds
    obtain rfl : rules = content start before := by cases hdue; rfl
    exact ⟨before, later, hdeeds, rfl, rfl⟩

/-- What a change that returned did: it answers as it owes, and it wrote once and then published the
number of the rules that it wrote, or it was refused and did nothing. -/
theorem Sound.change_returned (h : Sound start deeds s) {i : ℕ} {c : Change} {reply : ChangeReply}
    (hi : s.callers[i]? = some (.change c (.returned reply))) :
    reply = c.reply ∧ (c.write? = none → effectsOf i deeds = []) ∧
      ∀ w, c.write? = some w → ∃ before later,
        deeds = before ++ ⟨i, .wrote c (w.on (content start before))⟩ :: later ∧
        effectsOf i before = [] ∧
        effectsOf i later = [.published (w.on (content start before)).length] := by
  have hfits : ChangeStage.Fits c s.cell (effectsOf i deeds) (.returned reply) := h.callers i _ hi
  generalize hown : effectsOf i deeds = own at hfits
  cases hfits with
  | refused hwrite => exact ⟨rfl, fun _ => rfl, fun w hw => by rw [hwrite] at hw; cases hw⟩
  | @returned rules hwrite =>
    refine ⟨rfl, ⟨fun hnone => ?_, fun w hw => ?_⟩⟩
    · rw [hnone] at hwrite
      cases hwrite
    · obtain ⟨before, later, hdeeds, hbefore, hlater⟩ := exists_of_effectsOf_eq_cons hown
      have hdue := h.due before _ later hdeeds
      obtain rfl : rules = w.on (content start before) := by
        cases hdue with
        | wrote hwrite' hown' => rw [hw] at hwrite'; rw [Option.some.inj hwrite']
      exact ⟨before, later, hdeeds, hbefore, hlater⟩

end SharedStore

theorem content_append_of_adds {start : Store} {mid : List Deed}
    (h : ∀ c ∈ changesOf mid, c.adds = true) (before : List Deed) :
    content start (before ++ mid) =
      content start before ++ Store.accepted (givenSince [] (changesOf mid)) := by
  unfold content
  rw [changesOf_append, Run.after_append, Change.rules_after_of_adds h]

namespace SharedStore

/-- **Writes in order.** Any number of callers may take their turns in any order. At every moment
the cell holds what the changes that wrote so far make of the rules at the start, one after the
other in the order of their writes. Whatever a call does is due by then: it reads all that stands in
the cell, writes what its change makes of it, or publishes the number of the rules that it wrote.
So what a reader is told is told of the rules of one moment; a change that is refused does nothing;
and if a call to add a rule succeeds it wrote once, the rule stands right behind the rules that were
there, and it stays between these and the rules that are added later, until all rules are
changed. -/
theorem writes_in_order (start : Store) (turns : List Turn) :
    let now := (ofStore start).after turns
    let deeds := (ofStore start).deeds turns
    now.cell.rules = (Run.after Change.perform start (changesOf deeds)).rules ∧
    (∀ before d later, deeds = before ++ d :: later →
      Due (content start before) (effectsOf d.caller before) d.effect) ∧
    (∀ i q seen, now.callers[i]? = some (.reader q (.returned seen)) →
      ∃ before later, deeds = before ++ ⟨i, .read (content start before)⟩ :: later ∧
        effectsOf i deeds = [.read (content start before)] ∧
        seen = q.use (content start before)) ∧
    (∀ i c reply, now.callers[i]? = some (.change c (.returned reply)) →
      reply = c.reply ∧ (c.takesPlace = false → effectsOf i deeds = [])) ∧
    (∀ i raw, now.callers[i]? =
        some (.change (.tryRegister raw) (.returned (.tried (.ok ())))) →
      ∃ rule before d later, Rule.compile raw = .ok rule ∧
        deeds = before ++ d :: later ∧
        d = ⟨i, .wrote (.tryRegister raw) (content start before ++ [rule])⟩ ∧
        effectsOf i before = [] ∧
        effectsOf i later = [.published (content start before ++ [rule]).length] ∧
        ∀ mid rest, later = mid ++ rest → (∀ c ∈ changesOf mid, c.adds = true) →
          content start (before ++ d :: mid) =
            content start before ++ rule :: Store.accepted (givenSince [] (changesOf mid))) := by
  intro now deeds
  have hsound : Sound start deeds now := sound_after start turns
  refine ⟨hsound.rules, hsound.due, fun i q seen => hsound.reader_returned,
    fun i c reply hi => ?_, fun i raw hi => ?_⟩
  · obtain ⟨hreply, hrefused, -⟩ := hsound.change_returned hi
    refine ⟨hreply, fun hplace => hrefused ?_⟩
    rwa [← c.isSome_write?, Option.isSome_eq_false_iff, Option.isNone_iff_eq_none] at hplace
  · obtain ⟨hreply, -, hwrote⟩ := hsound.change_returned hi
    obtain ⟨rule, hrule⟩ : ∃ rule, Rule.compile raw = .ok rule := by
      cases hc : Rule.compile raw with
      | ok rule => exact ⟨rule, rfl⟩
      | error e => rw [Change.reply, hc] at hreply; cases hreply
    have hwrite : (Change.tryRegister raw).write? = some (.add rule) := RawRule.write?_ok hrule
    obtain ⟨before, later, hdeeds, hbefore, hlater⟩ := hwrote _ hwrite
    refine ⟨rule, before, _, later, hrule, hdeeds, rfl, hbefore, hlater, ?_⟩
    intro mid rest _ hadds
    rw [List.append_cons, content_append_of_adds hadds, content_wrote hwrite]
    exact List.append_assoc ..

end SharedStore

end Detour
