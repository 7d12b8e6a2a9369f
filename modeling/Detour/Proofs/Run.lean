import Mathlib.Data.List.Induction

/-!
# Runs

A machine takes inputs one after the other, answers each and goes on in another state. A fact that
the start has and every step keeps holds after every run (`Run.after_induction`), and the answer to
an input is that of the step from where the inputs before it lead (`Run.getElem?_replies`). A part
of the state may be a machine that takes some of the inputs (`Run.view_after`), and inputs that
leave every state as it is may be left out (`Run.after_filter`, `Run.replies_filter`).
-/

namespace Detour.Run

variable {σ ι ω : Type} (step : σ → ι → ω × σ)

/-- The state after a list of inputs. -/
def after (s : σ) (inputs : List ι) : σ := inputs.foldl (fun s i => (step s i).2) s

/-- The answers to a list of inputs. -/
def replies : σ → List ι → List ω
  | _, [] => []
  | s, i :: inputs => (step s i).1 :: replies (step s i).2 inputs

@[simp] theorem after_nil (s : σ) : after step s [] = s := rfl

@[simp] theorem after_cons (s : σ) (i : ι) (inputs : List ι) :
    after step s (i :: inputs) = after step (step s i).2 inputs := rfl

theorem after_append (s : σ) (a b : List ι) :
    after step s (a ++ b) = after step (after step s a) b := by
  unfold after; rw [List.foldl_append]

theorem after_concat (s : σ) (inputs : List ι) (i : ι) :
    after step s (inputs ++ [i]) = (step (after step s inputs) i).2 := by
  rw [after_append]; rfl

@[simp] theorem replies_nil (s : σ) : replies step s [] = [] := rfl

@[simp] theorem replies_cons (s : σ) (i : ι) (inputs : List ι) :
    replies step s (i :: inputs) = (step s i).1 :: replies step (step s i).2 inputs := rfl

@[simp] theorem length_replies (s : σ) (inputs : List ι) :
    (replies step s inputs).length = inputs.length := by
  induction inputs generalizing s with
  | nil => rfl
  | cons i inputs ih => rw [replies_cons, List.length_cons, ih, List.length_cons]

theorem replies_append (s : σ) (a b : List ι) :
    replies step s (a ++ b) = replies step s a ++ replies step (after step s a) b := by
  induction a generalizing s with
  | nil => rfl
  | cons i a ih => rw [List.cons_append, replies_cons, ih, replies_cons, after_cons]; rfl

/-- The answer to an input is that of the step from the state before it. -/
theorem getElem?_replies (s : σ) (before : List ι) (i : ι) (later : List ι) :
    (replies step s (before ++ i :: later))[before.length]? =
      some (step (after step s before) i).1 := by
  rw [replies_append, List.getElem?_append_right (Nat.le_of_eq (length_replies ..)), length_replies,
    Nat.sub_self]
  rfl

/-- A fact about the inputs so far and the state that every step keeps. -/
theorem after_induction {P : List ι → σ → Prop} {s : σ} (start : P [] s)
    (keeps : ∀ inputs t i, P inputs t → P (inputs ++ [i]) (step t i).2) (inputs : List ι) :
    P inputs (after step s inputs) := by
  induction inputs using List.reverseRecOn with
  | nil => exact start
  | append_singleton inputs i ih =>
    rw [after_concat]
    exact keeps inputs _ i ih

/-- A fact about the answers so far and the state that every step keeps. -/
theorem replies_induction {P : List ω → σ → Prop} {s : σ} (start : P [] s)
    (keeps : ∀ said t i, P said t → P (said ++ [(step t i).1]) (step t i).2) (inputs : List ι) :
    P (replies step s inputs) (after step s inputs) := by
  induction inputs using List.reverseRecOn with
  | nil => exact start
  | append_singleton inputs i ih =>
    rw [after_concat, replies_append]
    exact keeps _ _ i ih

/-- A part of the state that only some of the inputs change, and as a machine of its own changes it,
runs like that machine. -/
theorem view_after {τ κ ν : Type} (part : τ → κ → ν × τ) (view : σ → τ) (input? : ι → Option κ)
    (h : ∀ s i, view (step s i).2 = (input? i).elim (view s) fun k => (part (view s) k).2) (s : σ)
    (inputs : List ι) :
    view (after step s inputs) = after part (view s) (inputs.filterMap input?) := by
  induction inputs generalizing s with
  | nil => rfl
  | cons i inputs ih =>
    rw [after_cons, ih, h, List.filterMap_cons]
    cases input? i with
    | none => rfl
    | some k => rfl

/-! ## From another state -/

section Map

variable {f : σ → σ} (h : ∀ s i, (step (f s) i).2 = f (step s i).2)

include h in
theorem after_map (s : σ) (inputs : List ι) : after step (f s) inputs = f (after step s inputs) := by
  induction inputs generalizing s with
  | nil => rfl
  | cons i inputs ih => rw [after_cons, h, ih, after_cons]

include h in
/-- A change of the state that no answer shows is not shown by any run. -/
theorem replies_map (same : ∀ s i, (step (f s) i).1 = (step s i).1) (s : σ) (inputs : List ι) :
    replies step (f s) inputs = replies step s inputs := by
  induction inputs generalizing s with
  | nil => rfl
  | cons i inputs ih => rw [replies_cons, same, h, ih, replies_cons]

end Map

/-! ## Leaving inputs out -/

/-- The answers to the inputs that are kept. -/
def repliesTo (keep : ι → Bool) (s : σ) (inputs : List ι) : List ω :=
  ((inputs.zip (replies step s inputs)).filter fun p => keep p.1).map Prod.snd

variable {keep : ι → Bool} (idle : ∀ s i, keep i = false → (step s i).2 = s)

include idle in
theorem after_filter (s : σ) (inputs : List ι) :
    after step s (inputs.filter keep) = after step s inputs := by
  induction inputs generalizing s with
  | nil => rfl
  | cons i inputs ih =>
    by_cases hi : keep i = true
    · rw [List.filter_cons_of_pos hi, after_cons, after_cons, ih]
    · rw [List.filter_cons_of_neg hi, after_cons, idle s i (by simpa using hi), ih]

include idle in
theorem replies_filter (s : σ) (inputs : List ι) :
    replies step s (inputs.filter keep) = repliesTo step keep s inputs := by
  unfold repliesTo
  induction inputs generalizing s with
  | nil => rfl
  | cons i inputs ih =>
    by_cases hi : keep i = true
    · simp [hi, ih]
    · simp [hi, idle s i (by simpa using hi), ih]

end Detour.Run
