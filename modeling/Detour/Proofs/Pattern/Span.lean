import Detour.Pattern.Basic
import Detour.Proofs.Pattern.Layout
import Detour.Proofs.Pattern.Threads

/-!
# The span of a match

A search with a compiled pattern that succeeds notes where the match starts and where it ends
(`Pattern.span_of_search`), and the span lies within the text (`Pattern.whole_of_find?`). The
invariant is on the threads: behind the first instruction of a program each has noted the start, and
the one that accepts has noted the end last.
-/

namespace Detour

/-! ## Marks -/

/-- The start of the match is among the marks, and none is behind the position. -/
structure Noted (marks : List Mark) (position : ℕ) : Prop where
  start : ∃ m ∈ marks, m.group = 0 ∧ m.isStart = true
  bounded : ∀ m ∈ marks, m.position ≤ position

/-- The end of the match is the latest mark, and the start is among the others. -/
def IsMatch (marks : List Mark) (position : ℕ) : Prop :=
  ∃ stop earlier, marks = ⟨0, false, stop⟩ :: earlier ∧ Noted earlier stop ∧ stop ≤ position

theorem Noted.cons {marks : List Mark} {position : ℕ} (h : Noted marks position) (group : ℕ)
    (isStart : Bool) : Noted (⟨group, isStart, position⟩ :: marks) position := by
  obtain ⟨⟨m, hm, hstart⟩, hbounded⟩ := h
  exact ⟨⟨m, List.mem_cons_of_mem _ hm, hstart⟩,
    List.forall_mem_cons.mpr ⟨Nat.le_refl _, hbounded⟩⟩

theorem Noted.mono {marks : List Mark} {p q : ℕ} (h : Noted marks p) (hpq : p ≤ q) :
    Noted marks q :=
  ⟨h.start, fun m hm => Nat.le_trans (h.bounded m hm) hpq⟩

theorem IsMatch.mono {marks : List Mark} {p q : ℕ} (h : IsMatch marks p) (hpq : p ≤ q) :
    IsMatch marks q := by
  obtain ⟨stop, earlier, hmarks, hnoted, hstop⟩ := h
  exact ⟨stop, earlier, hmarks, hnoted, Nat.le_trans hstop hpq⟩

/-- The marks of a match give its span. -/
theorem IsMatch.span {marks : List Mark} {position : ℕ} (h : IsMatch marks position) :
    ∃ s, Mark.span marks 0 = some s ∧ s.start ≤ s.stop ∧ s.stop ≤ position := by
  obtain ⟨stop, earlier, rfl, ⟨⟨m, hm, hgroup, hstart⟩, hbounded⟩, hstop⟩ := h
  have hfound : (earlier.find? fun m => m.group = 0 && m.isStart = true).isSome = true := by
    rw [List.find?_isSome]
    exact ⟨m, hm, by rw [hgroup, hstart]; rfl⟩
  obtain ⟨m', hm'⟩ := Option.isSome_iff_exists.mp hfound
  refine ⟨⟨m'.position, stop⟩, ?_, hbounded m' (List.mem_of_find?_eq_some hm'), hstop⟩
  have hlatest : Mark.latest 0 true (⟨0, false, stop⟩ :: earlier) = some m'.position := by
    unfold Mark.latest
    rw [List.find?_cons_of_neg (by simp), hm']
    rfl
  unfold Mark.span
  rw [hlatest]
  rfl

/-! ## Threads -/

/-- What a thread has noted by its address. -/
inductive Thread.Ok (last position : ℕ) : Thread → Prop
  | fresh : Ok last position ⟨0, []⟩
  | inside {address : ℕ} {marks : List Mark} (hpos : 0 < address) (hlast : address ≤ last)
      (h : Noted marks position) : Ok last position ⟨address, marks⟩
  | done {marks : List Mark} (h : IsMatch marks position) : Ok last position ⟨last + 1, marks⟩

theorem Thread.Ok.mono {last p q : ℕ} {t : Thread} (h : t.Ok last p) (hpq : p ≤ q) :
    t.Ok last q := by
  cases h with
  | fresh => exact .fresh
  | inside hpos hlast h => exact .inside hpos hlast (h.mono hpq)
  | done h => exact .done (h.mono hpq)

section Threads

variable {program : Array Instr} {last position : ℕ} (hp : LaidOut program last)
  {t : Thread} {x : Instr}

include hp

/-- A thread at an instruction other than those at the ends of the program. -/
theorem Thread.Ok.inside_of (h : t.Ok last position) (hx : program[t.address]? = some x)
    (hopens : x ≠ .opens 0) (hcloses : x ≠ .closes 0) (haccept : x ≠ .accept) :
    (0 < t.address ∧ t.address < last) ∧ Noted t.marks position ∧ x.Within 1 last := by
  cases h with
  | fresh =>
    rw [hp.opens] at hx
    exact absurd (Option.some.inj hx).symm hopens
  | done h =>
    rw [hp.accepts] at hx
    exact absurd (Option.some.inj hx).symm haccept
  | @inside address marks hpos hlast h =>
    have hne : address ≠ last := by
      rintro rfl
      rw [hp.closes] at hx
      exact hcloses (Option.some.inj hx).symm
    have hlt : address < last := by omega
    exact ⟨⟨hpos, hlt⟩, h, hp.inner address x hpos hlt hx⟩

/-- Behind an instruction that lets a thread pass. -/
theorem Thread.Ok.pass (h : t.Ok last position) (hx : program[t.address]? = some x)
    (hopens : x ≠ .opens 0) (hcloses : x ≠ .closes 0) (haccept : x ≠ .accept) :
    Thread.Ok last position ⟨t.address + 1, t.marks⟩ := by
  obtain ⟨⟨hpos, hlt⟩, hnoted, -⟩ := h.inside_of hp hx hopens hcloses haccept
  exact .inside (Nat.succ_pos _) hlt hnoted

theorem Thread.Ok.opens {group : ℕ} (h : t.Ok last position)
    (hx : program[t.address]? = some (.opens group)) :
    Thread.Ok last position ⟨t.address + 1, ⟨group, true, position⟩ :: t.marks⟩ := by
  cases h with
  | fresh =>
    rw [hp.opens] at hx
    cases hx
    refine .inside (Nat.succ_pos 0) hp.pos ⟨⟨_, List.mem_cons_self, rfl, rfl⟩, ?_⟩
    exact List.forall_mem_cons.mpr ⟨Nat.le_refl _, List.forall_mem_nil _⟩
  | done h => rw [hp.accepts] at hx; cases hx
  | @inside address marks hpos hlast h =>
    have hne : address ≠ last := by
      rintro rfl
      rw [hp.closes] at hx
      cases hx
    exact .inside (Nat.succ_pos _) (show address + 1 ≤ last by omega) (h.cons group true)

theorem Thread.Ok.closes {group : ℕ} (h : t.Ok last position)
    (hx : program[t.address]? = some (.closes group)) :
    Thread.Ok last position ⟨t.address + 1, ⟨group, false, position⟩ :: t.marks⟩ := by
  cases h with
  | fresh => rw [hp.opens] at hx; cases hx
  | done h => rw [hp.accepts] at hx; cases hx
  | @inside address marks hpos hlast h =>
    by_cases hend : address = last
    · subst hend
      rw [hp.closes] at hx
      cases hx
      exact .done ⟨position, marks, rfl, h, Nat.le_refl _⟩
    · exact .inside (Nat.succ_pos _) (show address + 1 ≤ last by omega) (h.cons group false)

/-- A thread that accepts has found a match. -/
theorem Thread.Ok.accept (h : t.Ok last position) (hx : program[t.address]? = some .accept) :
    IsMatch t.marks position := by
  cases h with
  | fresh => rw [hp.opens] at hx; cases hx
  | done h => exact h
  | @inside address marks hpos hlast h =>
    by_cases hend : address = last
    · subst hend
      rw [hp.closes] at hx
      cases hx
    · exact (hp.inner address .accept hpos (by omega) hx).elim

/-- Every thread of a search has noted what its address tells. -/
theorem Thread.Arises.ok (h : t.Arises program position) : t.Ok last position := by
  induction h with
  | start position => exact .fresh
  | move _ hmove ih =>
    cases hmove with
    | look hx => exact ih.pass hp hx nofun nofun nofun
    | opens hx => exact ih.opens hp hx
    | closes hx => exact ih.closes hp hx
    | first hx =>
      obtain ⟨-, hnoted, hfirst, -⟩ := ih.inside_of hp hx nofun nofun nofun
      exact .inside hfirst.1 hfirst.2 hnoted
    | second hx =>
      obtain ⟨-, hnoted, -, hsecond⟩ := ih.inside_of hp hx nofun nofun nofun
      exact .inside hsecond.1 hsecond.2 hnoted
    | jump hx =>
      obtain ⟨-, hnoted, htarget⟩ := ih.inside_of hp hx nofun nofun nofun
      exact .inside htarget.1 htarget.2 hnoted
  | take _ hx ih => exact (ih.pass hp hx nofun nofun nofun).mono (Nat.le_succ _)

/-- What a search finds is a match. -/
theorem isMatch_of_search {text : List Char} {marks : List Mark}
    (h : search program text = some marks) : IsMatch marks text.length := by
  obtain ⟨position, hposition, t, ht, hx, rfl⟩ := accepts_of_search h
  exact ((ht.ok hp).accept hp hx).mono hposition

end Threads

/-! ## Patterns -/

/-- A span that lies within a text takes it apart. -/
theorem Span.before_slice_after {s : Span} (h : s.start ≤ s.stop) (text : List Char) :
    s.before text ++ s.slice text ++ s.after text = text := by
  unfold before slice after
  have hbefore : text.take s.start = (text.take s.stop).take s.start := by
    rw [List.take_take, Nat.min_eq_left h]
  rw [hbefore, List.take_append_drop, List.take_append_drop]

namespace Pattern

variable {source : String} {p : Pattern}

theorem exists_program_of_compile (h : compile source = .ok p) :
    ∃ e : Expr, p.program = e.program := by
  simp only [compile, bind, Except.bind] at h
  split at h
  · cases h
  · split at h
    · cases h
    · unfold ofExpr at h
      split at h
      · cases h
        exact ⟨_, rfl⟩
      · cases h

/-- The search with a compiled pattern finds a span within the text, or nothing. -/
theorem span_of_search (h : compile source = .ok p) {text : List Char} {marks : List Mark}
    (hs : search p.program text = some marks) :
    ∃ s, Mark.span marks 0 = some s ∧ s.start ≤ s.stop ∧ s.stop ≤ text.length := by
  obtain ⟨e, he⟩ := exists_program_of_compile h
  exact (isMatch_of_search (he ▸ e.program_laidOut) hs).span

/-- The span of a match lies within the text. -/
theorem whole_of_find? (h : compile source = .ok p) {text : List Char} {found : Match}
    (hf : p.find? text = some found) :
    found.whole.start ≤ found.whole.stop ∧ found.whole.stop ≤ text.length := by
  unfold find? at hf
  split at hf
  · cases hf
  · rename_i marks hs
    obtain ⟨s, hspan, hbounds⟩ := span_of_search h hs
    rw [hspan] at hf
    cases hf
    exact hbounds

end Pattern

end Detour
