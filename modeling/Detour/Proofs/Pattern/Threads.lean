import Detour.Pattern.Search
import Mathlib.Data.Nat.Notation

/-!
# The threads of a search

Every thread of a search starts at the first instruction, with nothing noted, and has come step by
step to where it stands (`Arises`). What a search finds are the marks of such a thread that accepts
(`accepts_of_search`), so what the steps keep holds of what is found.
-/

namespace Detour

/-- A step of a thread at a position, on to another instruction. -/
inductive Thread.Moves (program : Array Instr) (position : ℕ) (t : Thread) : Thread → Prop
  | look {l : Look} (hx : program[t.address]? = some (.look l)) :
    Moves program position t ⟨t.address + 1, t.marks⟩
  | opens {group : ℕ} (hx : program[t.address]? = some (.opens group)) :
    Moves program position t ⟨t.address + 1, ⟨group, true, position⟩ :: t.marks⟩
  | closes {group : ℕ} (hx : program[t.address]? = some (.closes group)) :
    Moves program position t ⟨t.address + 1, ⟨group, false, position⟩ :: t.marks⟩
  | first {first second : ℕ} (hx : program[t.address]? = some (.fork first second)) :
    Moves program position t ⟨first, t.marks⟩
  | second {first second : ℕ} (hx : program[t.address]? = some (.fork first second)) :
    Moves program position t ⟨second, t.marks⟩
  | jump {target : ℕ} (hx : program[t.address]? = some (.jump target)) :
    Moves program position t ⟨target, t.marks⟩

/-- A thread stands at the position after a start there or before it, and steps. -/
inductive Thread.Arises (program : Array Instr) : ℕ → Thread → Prop
  | start (position : ℕ) : Arises program position ⟨0, []⟩
  | move {position : ℕ} {t t' : Thread} (h : Arises program position t)
    (ht : t.Moves program position t') : Arises program position t'
  | take {position : ℕ} {s : CodeSet} {t : Thread} (h : Arises program position t)
    (hx : program[t.address]? = some (.chars s)) :
    Arises program (position + 1) ⟨t.address + 1, t.marks⟩

/-- The marks are those of a thread that accepts at the position or before it. -/
def Accepts (program : Array Instr) (position : ℕ) (marks : List Mark) : Prop :=
  ∃ q ≤ position, ∃ t : Thread, t.Arises program q ∧ program[t.address]? = some .accept ∧
    t.marks = marks

theorem Accepts.mono {program : Array Instr} {p q : ℕ} {marks : List Mark}
    (h : Accepts program p marks) (hpq : p ≤ q) : Accepts program q marks := by
  obtain ⟨position, hposition, ht⟩ := h
  exact ⟨position, Nat.le_trans hposition hpq, ht⟩

/-- Every thread of the list has come to where it stands. -/
def AllArise (program : Array Instr) (position : ℕ) (threads : List Thread) : Prop :=
  ∀ t ∈ threads, t.Arises program position

namespace AllArise

variable {program : Array Instr} {position : ℕ} {threads : List Thread}

theorem cons {t : Thread} (ht : t.Arises program position) (h : AllArise program position threads) :
    AllArise program position (t :: threads) := List.forall_mem_cons.mpr ⟨ht, h⟩

theorem settle {place : Place} (fuel : ℕ) (threads : List Thread) (w : Waiting)
    (h : AllArise program place.position threads) (hw : AllArise program place.position w.threads) :
    AllArise program place.position (settle program place fuel threads w).threads := by
  induction fuel generalizing threads w with
  | zero => exact hw
  | succ fuel ih =>
    cases threads with
    | nil => exact hw
    | cons t rest =>
      obtain ⟨ht, hrest⟩ := List.forall_mem_cons.mp h
      rw [Detour.settle]
      split
      · exact ih rest w hrest hw
      -- the address is new: one case for each instruction that may stand there
      · dsimp only
        split
        · exact ih rest _ hrest hw
        · exact ih rest _ hrest (cons ht hw)
        · exact ih rest _ hrest (cons ht hw)
        · rename_i l hx
          split
          · exact ih _ _ (cons (ht.move (.look hx)) hrest) hw
          · exact ih rest _ hrest hw
        · rename_i group hx
          exact ih _ _ (cons (ht.move (.opens hx)) hrest) hw
        · rename_i group hx
          exact ih _ _ (cons (ht.move (.closes hx)) hrest) hw
        · rename_i first second hx
          exact ih _ _ (cons (ht.move (.first hx)) (cons (ht.move (.second hx)) hrest)) hw
        · rename_i target hx
          exact ih _ _ (cons (ht.move (.jump hx)) hrest) hw

theorem waitingAt {place : Place} (h : AllArise program place.position threads) :
    AllArise program place.position (waitingAt program place threads) := by
  intro t ht
  exact settle _ threads ⟨Array.replicate program.size false, []⟩ h (List.forall_mem_nil _) t
    (List.mem_reverse.mp ht)

/-- The threads that go on are some of those that wait, and what is found is accepted. -/
theorem cutAtAccept (h : AllArise program position threads) :
    AllArise program position (cutAtAccept program threads).1 ∧
      ∀ marks, (cutAtAccept program threads).2 = some marks → Accepts program position marks := by
  induction threads with
  | nil => exact ⟨List.forall_mem_nil _, nofun⟩
  | cons t rest ih =>
    obtain ⟨ht, hrest⟩ := List.forall_mem_cons.mp h
    obtain ⟨hlive, hfound⟩ := ih hrest
    rw [Detour.cutAtAccept]
    split
    · rename_i hx
      refine ⟨List.forall_mem_nil _, fun marks hmarks => ?_⟩
      exact ⟨position, Nat.le_refl _, t, ht, hx, Option.some.inj hmarks⟩
    · exact ⟨cons ht hlive, hfound⟩

theorem advance (h : AllArise program position threads) (c : Char) :
    AllArise program (position + 1) (threads.filterMap (Thread.advance program c)) := by
  intro t' ht'
  obtain ⟨t, ht, hadvance⟩ := List.mem_filterMap.mp ht'
  unfold Thread.advance at hadvance
  split at hadvance
  · rename_i s hx
    split at hadvance
    · cases hadvance
      exact (h t ht).take hx
    · cases hadvance
  · cases hadvance

theorem arrive (place : Place) {found : Option (List Mark)}
    (h : AllArise program place.position threads)
    (hfound : ∀ marks, found = some marks → Accepts program place.position marks) :
    AllArise program place.position (arrive program place threads found).1 ∧
      ∀ marks, (arrive program place threads found).2 = some marks →
        Accepts program place.position marks := by
  have hstarted : AllArise program place.position
      (if found.isNone then threads ++ [⟨0, []⟩] else threads) := by
    split
    · exact List.forall_mem_append.mpr ⟨h, List.forall_mem_singleton.mpr (.start _)⟩
    · exact h
  obtain ⟨hlive, hbetter⟩ := hstarted.waitingAt.cutAtAccept
  refine ⟨hlive, fun marks hmarks => ?_⟩
  rw [Detour.arrive] at hmarks
  rcases Option.or_eq_some_iff.mp ((Option.or_eq_orElse ..).trans hmarks) with hmarks | ⟨-, hmarks⟩
  · exact hbetter marks hmarks
  · exact hfound marks hmarks

/-- What is found up to the end of the text is accepted. -/
theorem runThreads {before : Option Char} {found : Option (List Mark)} (rest : List Char)
    (h : AllArise program position threads)
    (hfound : ∀ marks, found = some marks → Accepts program position marks) (marks : List Mark)
    (hmarks : runThreads program position before threads found rest = some marks) :
    Accepts program (position + rest.length) marks := by
  induction rest generalizing position before threads found with
  | nil => exact (h.arrive ⟨position, before, none⟩ hfound).2 marks hmarks
  | cons c rest ih =>
    obtain ⟨hlive, hfound'⟩ := h.arrive ⟨position, before, some c⟩ hfound
    rw [Detour.runThreads] at hmarks
    dsimp only at hmarks
    split at hmarks
    -- no thread is left that could find a better match
    · exact (hfound' marks hmarks).mono (Nat.le_add_right _ _)
    · have hlater := ih (hlive.advance c)
        (fun marks h => (hfound' marks h).mono (Nat.le_succ position)) hmarks
      rw [List.length_cons, Nat.add_comm rest.length, ← Nat.add_assoc]
      exact hlater

end AllArise

/-- What a search finds is accepted within the text. -/
theorem accepts_of_search {program : Array Instr} {text : List Char} {marks : List Mark}
    (h : search program text = some marks) : Accepts program text.length marks := by
  have hnone : ∀ marks, (none : Option (List Mark)) = some marks → Accepts program 0 marks := nofun
  have haccepts := AllArise.runThreads text (List.forall_mem_nil _) hnone marks h
  rwa [Nat.zero_add] at haccepts

end Detour
