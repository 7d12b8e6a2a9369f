import Detour.Proofs.Pattern.Span

/-!
# The spans of groups

Every group of a program is closed behind the part that it encloses, and there is no other way out
of that part (`Expr.program_enclosing`). So a thread that accepts has left all groups that it
entered, and the last span that it noted of a group begins before it ends
(`Pattern.group_of_find?`).
-/

namespace Detour

/-! ## The layout of groups -/

/-- The group that opens at `start` closes at `stop`, and what stands between goes on between. -/
structure Encloses (program : Array Instr) (group start stop : ℕ) : Prop where
  lt : start < stop
  closes : program[stop]? = some (.closes group)
  inner : ∀ i x, start < i → i < stop → program[i]? = some x → x.Within (start + 1) stop

/-- The program `q` goes on from `p`, and encloses every group that it opens behind `p`. -/
structure Enclosing (p q : Array Instr) : Prop where
  begins : ∃ block : Array Instr, q = p ++ block
  encloses : ∀ group start, p.size ≤ start → q[start]? = some (.opens group) →
    ∃ stop, Encloses q group start stop

/-- What appends encloses the groups that it opens. -/
def AppendsEnclosing (emit : Array Instr → Array Instr) : Prop := ∀ p, Enclosing p (emit p)

section Programs

variable {p q r : Array Instr}

theorem getElem?_of_begins (h : ∃ block : Array Instr, q = p ++ block) {i : ℕ} (hi : i < p.size) :
    q[i]? = p[i]? := by
  obtain ⟨block, rfl⟩ := h
  exact Array.getElem?_append_left hi

theorem Encloses.of_begins {group start stop : ℕ} (h : Encloses p group start stop)
    (hpq : ∃ block : Array Instr, q = p ++ block) : Encloses q group start stop := by
  have hstop : stop < p.size := (Array.getElem?_eq_some_iff.mp h.closes).1
  refine ⟨h.lt, ?_, fun i x hstart hi hx => ?_⟩
  · rw [getElem?_of_begins hpq hstop, h.closes]
  · rw [getElem?_of_begins hpq (by omega)] at hx
    exact h.inner i x hstart hi hx

namespace Enclosing

theorem refl (p : Array Instr) : Enclosing p p := by
  refine ⟨⟨#[], Array.append_empty.symm⟩, fun group start hstart hx => ?_⟩
  have hlt := (Array.getElem?_eq_some_iff.mp hx).1
  omega

theorem trans (h : Enclosing p q) (h' : Enclosing q r) : Enclosing p r := by
  refine ⟨?_, fun group start hstart hx => ?_⟩
  · obtain ⟨a, rfl⟩ := h.begins
    obtain ⟨b, rfl⟩ := h'.begins
    exact ⟨a ++ b, Array.append_assoc⟩
  · by_cases hq : start < q.size
    · rw [getElem?_of_begins h'.begins hq] at hx
      obtain ⟨stop, hencloses⟩ := h.encloses group start hstart hx
      exact ⟨stop, hencloses.of_begins h'.begins⟩
    · exact h'.encloses group start (Nat.le_of_not_lt hq) hx

/-- One instruction more, which opens no group. -/
theorem push (h : Enclosing p q) {x : Instr} (hx : ∀ group, x ≠ .opens group) :
    Enclosing p (q.push x) := by
  refine h.trans ⟨⟨#[x], Array.push_eq_append⟩, fun group start hstart hopens => ?_⟩
  rw [Array.getElem?_push] at hopens
  split at hopens
  · exact absurd (Option.some.inj hopens) (hx group)
  · have hlt := (Array.getElem?_eq_some_iff.mp hopens).1
    omega

theorem emit {f : Array Instr → Array Instr} (h : Enclosing p q) (hf : AppendsEnclosing f) :
    Enclosing p (f q) := h.trans (hf q)

end Enclosing

end Programs

namespace Expr

theorem branch_ne_opens (greedy : Bool) (go leave group : ℕ) :
    branch greedy go leave ≠ .opens group := by
  cases greedy <;> exact Instr.noConfusion

section Repetitions

variable {f : Array Instr → Array Instr} (h : AppendsEnclosing f)

include h

theorem emitCopies_enclosing (n : ℕ) : AppendsEnclosing (emitCopies f n) := by
  induction n with
  | zero => exact Enclosing.refl
  | succ n ih => exact fun p => ((Enclosing.refl p).emit h).emit ih

theorem emitOptional_enclosing (greedy : Bool) (leave n : ℕ) :
    AppendsEnclosing (emitOptional f greedy leave n) := by
  induction n with
  | zero => exact Enclosing.refl
  | succ n ih =>
    intro p
    exact (((Enclosing.refl p).push (branch_ne_opens greedy _ leave)).emit h).emit ih

end Repetitions

theorem text_enclosing (cs : List Char) :
    AppendsEnclosing fun p => cs.foldl (fun p c => p.push (.chars (.single c.toNat))) p := by
  induction cs with
  | nil => exact Enclosing.refl
  | cons c cs ih => exact fun p => ((Enclosing.refl p).push fun _ => Instr.noConfusion).emit ih

/-- The instructions of a group enclose it. -/
theorem group_enclosing {body : Expr} (h : AppendsEnclosing body.emit) (index : ℕ) :
    AppendsEnclosing fun p => (body.emit (p.push (.opens index))).push (.closes index) := by
  intro p
  show Enclosing p ((body.emit (p.push (.opens index))).push (.closes index))
  have hbody : Enclosing (p.push (.opens index))
      ((body.emit (p.push (.opens index))).push (.closes index)) :=
    ((Enclosing.refl _).emit h).push fun _ => Instr.noConfusion
  obtain ⟨block, hblock, hsize, hwithin⟩ := body.emit_emits (p.size + 1) (p.size + 1 + body.length)
    (p.push (.opens index)) (Nat.le_of_eq (Array.size_push _).symm)
    (Nat.le_of_eq (congrArg (· + body.length) (Array.size_push _)))
  have hemit : (body.emit (p.push (.opens index))).size = p.size + 1 + body.length := by
    rw [hblock, Array.size_append, Array.size_push, hsize]
  refine ⟨?_, fun group start hstart hopens => ?_⟩
  · obtain ⟨rest, hrest⟩ := hbody.begins
    exact ⟨#[.opens index] ++ rest, by rw [hrest, Array.push_eq_append, Array.append_assoc]⟩
  by_cases hlater : p.size < start
  · exact hbody.encloses group start (by rw [Array.size_push]; omega) hopens
  -- the group itself: behind its first instruction stands its body, and then its last one
  · obtain rfl : start = p.size := by omega
    rw [getElem?_of_begins hbody.begins (by rw [Array.size_push]; omega),
      Array.getElem?_push_size] at hopens
    cases hopens
    refine ⟨p.size + 1 + body.length, by omega, ?_, fun i x hi hstop hx => ?_⟩
    · rw [← hemit, Array.getElem?_push_size]
    · rw [getElem?_of_begins ⟨_, Array.push_eq_append⟩ (by omega), hblock,
        Array.getElem?_append_right (by rw [Array.size_push]; omega)] at hx
      exact hwithin x (Array.mem_of_getElem? hx)

/-- The instructions of an expression enclose its groups. -/
theorem emit_enclosing (e : Expr) : AppendsEnclosing e.emit := by
  induction e with
  | empty => exact Enclosing.refl
  | text cs => exact text_enclosing cs
  | chars s ofBytes => exact fun p => (Enclosing.refl p).push fun _ => Instr.noConfusion
  | look l => exact fun p => (Enclosing.refl p).push fun _ => Instr.noConfusion
  | group index name body ih => exact group_enclosing ih index
  | cat a b iha ihb => exact fun p => ((Enclosing.refl p).emit iha).emit ihb
  | alt a b iha ihb =>
    intro p
    have ha := ((Enclosing.refl p).push (x := .fork (p.size + 1) (p.size + a.length + 2))
      fun _ => Instr.noConfusion).emit iha
    exact (ha.push fun _ => Instr.noConfusion).emit ihb
  | repeated min max greedy body ih =>
    intro p
    rcases max with _ | max
    · rcases min with _ | min
      · rw [emit]
        have hturn := ((Enclosing.refl p).push (branch_ne_opens greedy (p.size + 1)
          (p.size + body.length + 2))).emit ih
        split
        · exact hturn.push (branch_ne_opens greedy _ _)
        · exact hturn.push fun _ => Instr.noConfusion
      · exact (((Enclosing.refl p).emit (emitCopies_enclosing ih min)).emit ih).push
          (branch_ne_opens greedy _ _)
    · rw [emit]
      exact ((Enclosing.refl p).emit (emitCopies_enclosing ih min)).emit
        (emitOptional_enclosing ih greedy _ _)

/-- A program encloses all its groups. -/
theorem program_enclosing (e : Expr) {group start : ℕ}
    (h : e.program[start]? = some (.opens group)) :
    ∃ stop, Encloses e.program group start stop := by
  have hprogram : Enclosing #[] e.program :=
    (group_enclosing e.emit_enclosing 0 #[]).push fun _ => Instr.noConfusion
  exact hprogram.encloses group start (Nat.zero_le start) h

end Expr

/-! ## Marks of a thread -/

/-- The latest mark of the group, if it has one, is one of its start. -/
def IsPending (marks : List Mark) (group : ℕ) : Prop :=
  ∃ m, marks.find? (fun m => m.group = group) = some m ∧ m.isStart = true

theorem isPending_cons_of_ne {m : Mark} {marks : List Mark} {group : ℕ} (h : m.group ≠ group) :
    IsPending (m :: marks) group ↔ IsPending marks group := by
  unfold IsPending
  rw [List.find?_cons_of_neg (by simpa using h)]

/-- The marks come one after the other, the latest first, and none is behind the position. -/
structure InOrder (marks : List Mark) (position : ℕ) : Prop where
  bounded : ∀ m ∈ marks, m.position ≤ position
  descending : marks.Pairwise fun m n => n.position ≤ m.position

theorem InOrder.mono {marks : List Mark} {p q : ℕ} (h : InOrder marks p) (hpq : p ≤ q) :
    InOrder marks q := ⟨fun m hm => Nat.le_trans (h.bounded m hm) hpq, h.descending⟩

theorem InOrder.cons {marks : List Mark} {position : ℕ} (h : InOrder marks position) (group : ℕ)
    (isStart : Bool) : InOrder (⟨group, isStart, position⟩ :: marks) position :=
  ⟨List.forall_mem_cons.mpr ⟨Nat.le_refl _, h.bounded⟩,
    List.pairwise_cons.mpr ⟨h.bounded, h.descending⟩⟩

/-- Of a group that is not pending the latest span begins before it ends. -/
theorem InOrder.span {marks : List Mark} {position group : ℕ} {s : Span}
    (h : InOrder marks position) (hpending : ¬ IsPending marks group)
    (hs : Mark.span marks group = some s) : s.start ≤ s.stop ∧ s.stop ≤ position := by
  unfold Mark.span at hs
  split at hs
  · rename_i start stop hstart hstop
    cases hs
    obtain ⟨m, hm, rfl⟩ := Option.map_eq_some_iff.mp hstart
    obtain ⟨n, hn, rfl⟩ := Option.map_eq_some_iff.mp hstop
    have hmgroup : m.group = group ∧ m.isStart = true := by simpa using List.find?_some hm
    have hngroup : n.group = group ∧ n.isStart = false := by simpa using List.find?_some hn
    refine ⟨?_, h.bounded n (List.mem_of_find?_eq_some hn)⟩
    -- the end is the latest mark of the group, so the start comes behind it in the list
    obtain ⟨-, later, earlier, rfl, hlater⟩ := List.find?_eq_some_iff_append.mp hn
    have hnone : ∀ k ∈ later, k.group ≠ group := by
      intro k hk hgroup
      have hsome : (later.find? fun k => k.group = group).isSome = true :=
        List.find?_isSome.mpr ⟨k, hk, decide_eq_true hgroup⟩
      obtain ⟨l, hl⟩ := Option.isSome_iff_exists.mp hsome
      refine hpending ⟨l, by rw [List.find?_append, hl, Option.some_or], ?_⟩
      have hlgroup : l.group = group := by simpa using List.find?_some hl
      simpa [hlgroup] using hlater l (List.mem_of_find?_eq_some hl)
    have hmearlier : m ∈ earlier := by
      rcases List.mem_append.mp (List.mem_of_find?_eq_some hm) with hmem | hmem
      · exact absurd hmgroup.1 (hnone m hmem)
      · rcases List.mem_cons.mp hmem with rfl | hmem
        · exact absurd (hmgroup.2.symm.trans hngroup.2) Bool.noConfusion
        · exact hmem
    exact (List.pairwise_cons.mp (List.pairwise_append.mp h.descending).2.1).1 m hmearlier
  · cases hs

section Threads

variable {program : Array Instr} {position : ℕ} {t : Thread}

theorem Thread.Arises.inOrder (h : t.Arises program position) : InOrder t.marks position := by
  induction h with
  | start position => exact ⟨List.forall_mem_nil _, List.Pairwise.nil⟩
  | move _ hmove ih =>
    cases hmove with
    | look | first | second | jump => exact ih
    | opens => exact ih.cons _ true
    | closes => exact ih.cons _ false
  | take _ _ ih => exact ih.mono (Nat.le_succ _)

/-- Within a group control goes on within it, unless it closes the group. -/
theorem Encloses.stays {group start stop address : ℕ} {x : Instr}
    (h : Encloses program group start stop) (hin : start < address ∧ address ≤ stop)
    (hx : program[address]? = some x) (hcloses : x ≠ .closes group) :
    address < stop ∧ x.Within (start + 1) stop := by
  have hne : address ≠ stop := by
    rintro rfl
    exact hcloses (Option.some.inj (hx.symm.trans h.closes))
  have hlt : address < stop := by omega
  exact ⟨hlt, h.inner address x hin.1 hlt hx⟩

/-- A thread that has a group pending stands within it. -/
theorem Thread.Arises.within
    (hp : ∀ group start, program[start]? = some (.opens group) →
      ∃ stop, Encloses program group start stop)
    (h : t.Arises program position) {group : ℕ} (hpending : IsPending t.marks group) :
    ∃ start stop, Encloses program group start stop ∧ start < t.address ∧ t.address ≤ stop := by
  induction h with
  | start position =>
    obtain ⟨m, hm, -⟩ := hpending
    cases hm
  | @move position t t' _ hmove ih =>
    -- a step that is no mark of the group leaves it pending, and so the thread within it
    have hstays : ∀ x, program[t.address]? = some x → x ≠ .closes group →
        IsPending t.marks group → ∃ start stop, Encloses program group start stop ∧
          (start < t.address ∧ t.address < stop) ∧ x.Within (start + 1) stop := by
      intro x hx hcloses hpending
      obtain ⟨start, stop, hencloses, hin⟩ := ih hpending
      obtain ⟨hlt, hwithin⟩ := hencloses.stays hin hx hcloses
      exact ⟨start, stop, hencloses, ⟨hin.1, hlt⟩, hwithin⟩
    cases hmove with
    | look hx =>
      obtain ⟨start, stop, hencloses, hin, -⟩ := hstays _ hx nofun hpending
      exact ⟨start, stop, hencloses, by dsimp only; omega⟩
    | @opens g hx =>
      by_cases hg : g = group
      · subst hg
        obtain ⟨stop, hencloses⟩ := hp _ _ hx
        exact ⟨t.address, stop, hencloses, Nat.lt_succ_self _, hencloses.lt⟩
      · obtain ⟨start, stop, hencloses, hin, -⟩ :=
          hstays _ hx nofun ((isPending_cons_of_ne hg).mp hpending)
        exact ⟨start, stop, hencloses, by dsimp only; omega⟩
    | @closes g hx =>
      by_cases hg : g = group
      · subst hg
        obtain ⟨m, hm, hstart⟩ := hpending
        rw [List.find?_cons_of_pos (by simp)] at hm
        cases hm
        cases hstart
      · obtain ⟨start, stop, hencloses, hin, -⟩ :=
          hstays _ hx (fun h => hg (Instr.closes.inj h)) ((isPending_cons_of_ne hg).mp hpending)
        exact ⟨start, stop, hencloses, by dsimp only; omega⟩
    | first hx =>
      obtain ⟨start, stop, hencloses, -, hfirst, -⟩ := hstays _ hx nofun hpending
      exact ⟨start, stop, hencloses, hfirst⟩
    | second hx =>
      obtain ⟨start, stop, hencloses, -, -, hsecond⟩ := hstays _ hx nofun hpending
      exact ⟨start, stop, hencloses, hsecond⟩
    | jump hx =>
      obtain ⟨start, stop, hencloses, -, htarget⟩ := hstays _ hx nofun hpending
      exact ⟨start, stop, hencloses, htarget⟩
  | @take position s t _ hx ih =>
    obtain ⟨start, stop, hencloses, hin⟩ := ih hpending
    obtain ⟨hlt, -⟩ := hencloses.stays hin hx nofun
    exact ⟨start, stop, hencloses, Nat.lt_succ_of_lt hin.1, hlt⟩

end Threads

/-! ## Matches -/

namespace Pattern

variable {source : String} {p : Pattern}

/-- The span of every group that takes part in a match begins before it ends, and lies within the
text. -/
theorem group_of_find? (h : compile source = .ok p) {text : List Char} {found : Match}
    (hf : p.find? text = some found) {s : Span} (hs : some s ∈ found.groups) :
    s.start ≤ s.stop ∧ s.stop ≤ text.length := by
  obtain ⟨e, he⟩ := exists_program_of_compile h
  unfold find? at hf
  split at hf
  · cases hf
  · rename_i marks hsearch
    obtain ⟨whole, -, rfl⟩ := Option.map_eq_some_iff.mp hf
    obtain ⟨i, -, hspan⟩ := List.mem_map.mp hs
    obtain ⟨position, hposition, t, ht, hx, rfl⟩ := accepts_of_search hsearch
    have hpending : ¬ IsPending t.marks (i + 1) := by
      intro hpending
      rw [he] at ht hx
      obtain ⟨start, stop, hencloses, hin⟩ := ht.within (fun _ _ => e.program_enclosing) hpending
      exact (hencloses.stays hin hx nofun).2
    obtain ⟨hstart, hstop⟩ := ht.inOrder.span hpending hspan
    exact ⟨hstart, Nat.le_trans hstop hposition⟩

end Pattern

end Detour
