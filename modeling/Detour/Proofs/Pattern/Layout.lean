import Detour.Pattern.Program
import Mathlib.Data.Nat.Notation

/-!
# The layout of programs

A program notes the start of the match first, and its end last, right before it accepts. Control
never leaves the part between the two other than through its end (`Expr.program_laidOut`).
-/

namespace Detour

/-- The instruction does not accept, and goes on between `low` and `high`. -/
def Instr.Within (low high : ℕ) : Instr → Prop
  | .fork first second => (low ≤ first ∧ first ≤ high) ∧ (low ≤ second ∧ second ≤ high)
  | .jump target => low ≤ target ∧ target ≤ high
  | .accept => False
  | _ => True

/-- The program `q` is `p` with `n` instructions more, which go on between `low` and `high`. -/
def Extends (low high n : ℕ) (p q : Array Instr) : Prop :=
  ∃ block : Array Instr, q = p ++ block ∧ block.size = n ∧ ∀ x ∈ block, x.Within low high

/-- What appends `n` instructions that go on inside the program that results. -/
def Emits (emit : Array Instr → Array Instr) (n : ℕ) : Prop :=
  ∀ low high (p : Array Instr), low ≤ p.size → p.size + n ≤ high → Extends low high n p (emit p)

namespace Extends

variable {low high n m : ℕ} {p q r : Array Instr}

theorem size (h : Extends low high n p q) : q.size = p.size + n := by
  obtain ⟨block, rfl, rfl, -⟩ := h
  exact Array.size_append

theorem refl (low high : ℕ) (p : Array Instr) : Extends low high 0 p p :=
  ⟨#[], Array.append_empty.symm, rfl, fun x h => absurd h (Array.not_mem_empty x)⟩

theorem congr (h : Extends low high n p q) (hn : n = m) : Extends low high m p q := hn ▸ h

theorem trans (h : Extends low high n p q) (h' : Extends low high m q r) :
    Extends low high (n + m) p r := by
  obtain ⟨a, rfl, rfl, ha⟩ := h
  obtain ⟨b, rfl, rfl, hb⟩ := h'
  refine ⟨a ++ b, Array.append_assoc, Array.size_append, fun x hx => ?_⟩
  rcases Array.mem_append.mp hx with hx | hx
  · exact ha x hx
  · exact hb x hx

/-- One instruction more. -/
theorem push (h : Extends low high n p q) (x : Instr) (hx : x.Within low high) :
    Extends low high (n + 1) p (q.push x) := by
  refine h.trans ⟨#[x], Array.push_eq_append, rfl, fun y hy => ?_⟩
  rw [Array.mem_singleton.mp hy]
  exact hx

/-- The instructions of one part more. -/
theorem emit {f : Array Instr → Array Instr} (h : Extends low high n p q) (hf : Emits f m)
    (hlow : low ≤ p.size) (hhigh : p.size + (n + m) ≤ high) :
    Extends low high (n + m) p (f q) := by
  have hsize := h.size
  exact h.trans (hf low high q (by omega) (by omega))

end Extends

/-! ## Expressions -/

namespace Expr

theorem within_branch {low high go leave : ℕ} (hgo : low ≤ go ∧ go ≤ high)
    (hleave : low ≤ leave ∧ leave ≤ high) (greedy : Bool) :
    (branch greedy go leave).Within low high := by
  cases greedy with
  | true => exact ⟨hgo, hleave⟩
  | false => exact ⟨hleave, hgo⟩

section Repetitions

variable {f : Array Instr → Array Instr} {n : ℕ}

theorem emitCopies_emits (h : Emits f n) (k : ℕ) : Emits (emitCopies f k) (k * n) := by
  induction k with
  | zero =>
    intro low high p _ _
    exact (Extends.refl low high p).congr (Nat.zero_mul n).symm
  | succ k ih =>
    intro low high p hlow hhigh
    rw [Nat.succ_mul] at hhigh
    have hfirst := (Extends.refl low high p).emit h hlow (by omega)
    exact (hfirst.emit ih hlow (by omega)).congr (by rw [Nat.succ_mul]; omega)

theorem emitOptional_extends (h : Emits f n) (greedy : Bool) {low high leave : ℕ}
    (hleave : low ≤ leave ∧ leave ≤ high) (k : ℕ) (p : Array Instr) (hlow : low ≤ p.size)
    (hhigh : p.size + k * (n + 1) ≤ high) :
    Extends low high (k * (n + 1)) p (emitOptional f greedy leave k p) := by
  induction k generalizing p with
  | zero => exact (Extends.refl low high p).congr (Nat.zero_mul _).symm
  | succ k ih =>
    rw [Nat.succ_mul] at hhigh
    have hfork := (Extends.refl low high p).push (branch greedy (p.size + 1) leave)
      (within_branch ⟨by omega, by omega⟩ hleave greedy)
    have hturn := hfork.emit h hlow (by omega)
    have hsize := hturn.size
    have hothers := ih (f (p.push (branch greedy (p.size + 1) leave))) (by omega) (by omega)
    exact (hturn.trans hothers).congr (by rw [Nat.succ_mul]; omega)

/-- A repetition that may be left at once. -/
theorem emitStar_extends {body : Expr} (h : Emits body.emit body.length) (greedy : Bool)
    {low high : ℕ} {p : Array Instr} (hlow : low ≤ p.size)
    (hhigh : p.size + (repeated 0 none greedy body).length ≤ high) :
    Extends low high (repeated 0 none greedy body).length p
      ((repeated 0 none greedy body).emit p) := by
  rw [length, if_pos rfl] at hhigh ⊢
  have hbranch : (branch greedy (p.size + 1) (p.size + body.length + 2)).Within low high :=
    within_branch ⟨by omega, by omega⟩ ⟨by omega, by omega⟩ greedy
  have hturn := ((Extends.refl low high p).push _ hbranch).emit h hlow (by omega)
  rw [emit]
  split
  · exact (hturn.push _ hbranch).congr (by omega)
  · exact (hturn.push (.jump p.size) ⟨by omega, by omega⟩).congr (by omega)

/-- A repetition that takes `min + 1` turns at least. -/
theorem emitPlus_extends {body : Expr} (h : Emits body.emit body.length) (greedy : Bool) (min : ℕ)
    {low high : ℕ} {p : Array Instr} (hlow : low ≤ p.size)
    (hhigh : p.size + (repeated (min + 1) none greedy body).length ≤ high) :
    Extends low high (repeated (min + 1) none greedy body).length p
      ((repeated (min + 1) none greedy body).emit p) := by
  rw [length, if_neg (Nat.succ_ne_zero min), Nat.succ_mul] at hhigh ⊢
  have hcopies := (Extends.refl low high p).emit (emitCopies_emits h min) hlow (by omega)
  have hsize := hcopies.size
  have hturn := hcopies.emit h hlow (by omega)
  have hbranch : (branch greedy (emitCopies body.emit min p).size
      ((emitCopies body.emit min p).size + body.length + 1)).Within low high :=
    within_branch ⟨by omega, by omega⟩ ⟨by omega, by omega⟩ greedy
  exact (hturn.push _ hbranch).congr (by omega)

end Repetitions

theorem text_emits (cs : List Char) :
    Emits (fun p => cs.foldl (fun p c => p.push (.chars (.single c.toNat))) p) cs.length := by
  induction cs with
  | nil => exact fun low high p _ _ => Extends.refl low high p
  | cons c cs ih =>
    intro low high p hlow hhigh
    rw [List.length_cons] at hhigh
    have hfirst := (Extends.refl low high p).push
      (.chars (.single c.toNat)) trivial
    exact (hfirst.emit ih hlow (by omega)).congr (by rw [List.length_cons]; omega)

/-- The instructions of an expression go on inside them, or right behind them. -/
theorem emit_emits (e : Expr) : Emits e.emit e.length := by
  induction e with
  | empty => exact fun low high p _ _ => Extends.refl low high p
  | text cs => exact text_emits cs
  | chars s ofBytes => exact fun low high p _ _ => (Extends.refl low high p).push (.chars s) trivial
  | look l => exact fun low high p _ _ => (Extends.refl low high p).push (.look l) trivial
  | group index name body ih =>
    intro low high p hlow hhigh
    rw [length] at hhigh
    have hopen := (Extends.refl low high p).push (.opens index) trivial
    have hbody := hopen.emit ih hlow (by omega)
    exact (hbody.push (.closes index) trivial).congr (by rw [length]; omega)
  | cat a b iha ihb =>
    intro low high p hlow hhigh
    rw [length] at hhigh
    have ha := (Extends.refl low high p).emit iha hlow (by omega)
    exact (ha.emit ihb hlow (by omega)).congr (by rw [length]; omega)
  | alt a b iha ihb =>
    intro low high p hlow hhigh
    rw [length] at hhigh
    have hfork := (Extends.refl low high p).push
      (.fork (p.size + 1) (p.size + a.length + 2)) ⟨⟨by omega, by omega⟩, by omega, by omega⟩
    have ha := hfork.emit iha hlow (by omega)
    have hjump := ha.push (.jump (p.size + a.length + 2 + b.length)) ⟨by omega, by omega⟩
    exact (hjump.emit ihb hlow (by omega)).congr (by rw [length]; omega)
  | repeated min max greedy body ih =>
    intro low high p hlow hhigh
    rcases max with _ | max
    · rcases min with _ | min
      · exact emitStar_extends ih greedy hlow hhigh
      · exact emitPlus_extends ih greedy min hlow hhigh
    · rw [length] at hhigh ⊢
      rw [emit]
      have hcopies := (Extends.refl low high p).emit (emitCopies_emits ih min) hlow (by omega)
      have hsize := hcopies.size
      have hleave : low ≤ (emitCopies body.emit min p).size + (max - min) * (body.length + 1) ∧
          (emitCopies body.emit min p).size + (max - min) * (body.length + 1) ≤ high :=
        ⟨by omega, by omega⟩
      exact (hcopies.trans (emitOptional_extends ih greedy hleave (max - min)
        (emitCopies body.emit min p) (by omega) (by omega))).congr (by omega)

end Expr

/-! ## Programs -/

/-- The program opens the group 0 at the address 0, closes it at `last` and accepts behind that;
what stands between goes on between. -/
structure LaidOut (program : Array Instr) (last : ℕ) : Prop where
  pos : 0 < last
  opens : program[0]? = some (.opens 0)
  inner : ∀ i x, 0 < i → i < last → program[i]? = some x → x.Within 1 last
  closes : program[last]? = some (.closes 0)
  accepts : program[last + 1]? = some .accept

theorem Expr.program_laidOut (e : Expr) : LaidOut e.program (e.length + 1) := by
  obtain ⟨block, hblock, hsize, hwithin⟩ :=
    e.emit_emits 1 (e.length + 1) #[.opens 0] (Nat.le_refl 1) (Nat.le_of_eq (Nat.add_comm _ _))
  have hprogram : e.program.toList = .opens 0 :: (block.toList ++ [.closes 0, .accept]) := by
    rw [program, hblock]
    simp
  have hlength : block.toList.length = e.length := hsize
  refine ⟨Nat.succ_pos _, ?_, ?_, ?_, ?_⟩
  · rw [← Array.getElem?_toList, hprogram]
    rfl
  · intro i x hpos hlast hx
    obtain ⟨i, rfl⟩ : ∃ j, i = j + 1 := ⟨i - 1, by omega⟩
    rw [← Array.getElem?_toList, hprogram, List.getElem?_cons_succ,
      List.getElem?_append_left (by omega)] at hx
    exact hwithin x (Array.mem_toList_iff.mp (List.mem_of_getElem? hx))
  · rw [← Array.getElem?_toList, hprogram, List.getElem?_cons_succ,
      List.getElem?_append_right (by omega), hlength, Nat.sub_self]
    rfl
  · rw [← Array.getElem?_toList, hprogram, List.getElem?_cons_succ,
      List.getElem?_append_right (by omega), hlength, Nat.add_sub_cancel_left]
    rfl

end Detour
