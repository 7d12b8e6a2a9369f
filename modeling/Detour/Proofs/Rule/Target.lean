import Detour.Rule.Dispatch
import Mathlib.Data.List.Basic

/-!
# The characters of a target

A target is made of three texts: the template of the rule, the method of the request and its
address. Whatever references the template has, they bring in no character that is in none of these
(`Rule.mem_targetFor`), so that a class of characters which holds all three holds the target.
-/

namespace Detour

variable {c : Char}

/-! ## Parts of a text -/

namespace Span

variable {s : Span} {text : List Char}

theorem mem_of_mem_slice (h : c ∈ s.slice text) : c ∈ text :=
  List.mem_of_mem_take (List.mem_of_mem_drop h)

theorem mem_of_mem_before (h : c ∈ s.before text) : c ∈ text := List.mem_of_mem_take h

theorem mem_of_mem_after (h : c ∈ s.after text) : c ∈ text := List.mem_of_mem_drop h

end Span

namespace Template

/-! ## The method -/

theorem mem_of_mem_replaceToken {token by' cs : List Char} (h : c ∈ replaceToken token by' cs) :
    c ∈ by' ∨ c ∈ cs := by
  induction cs with
  | nil =>
    unfold replaceToken at h
    split at h
    · exact .inl h
    · exact .inr h
  | cons d cs ih =>
    unfold replaceToken at h
    split at h
    · obtain h | h := List.mem_append.mp h
      · exact .inl h
      · exact .inr (List.mem_of_mem_drop h)
    · obtain rfl | h := List.mem_cons.mp h
      · exact .inr List.mem_cons_self
      · exact (ih h).imp_right (List.mem_cons_of_mem d)

/-! ## References -/

namespace Context

variable {x : Context}

theorem mem_of_mem_group {n : ℕ} (h : c ∈ x.group n) : c ∈ x.input := by
  unfold group at h
  split at h
  · exact Span.mem_of_mem_slice h
  · cases h

theorem mem_of_mem_named {name : List Char} (h : c ∈ x.named name) : c ∈ x.input := by
  unfold named at h
  split at h
  · exact mem_of_mem_group h
  · cases h

end Context

variable {x : Context}

/-- But for a dollar sign, which is written twice, a reference stands for a part of the input. -/
theorem mem_of_mem_reference? {cs text : List Char} {length : ℕ}
    (hreference : reference? x cs = some (length, text)) (h : c ∈ text) : c ∈ cs ∨ c ∈ x.input := by
  cases cs with
  | nil => cases hreference
  | cons d rest =>
    simp only [reference?] at hreference
    split_ifs at hreference with hdollar
    · cases hreference
      obtain rfl := List.mem_singleton.mp h
      rw [hdollar]
      exact .inl List.mem_cons_self
    -- all others are parts of the match: the whole, what surrounds it, groups by number or name
    all_goals right
    · cases hreference
      exact Span.mem_of_mem_slice h
    · cases hreference
      exact Span.mem_of_mem_before h
    · cases hreference
      exact Span.mem_of_mem_after h
    · cases hreference
      exact Context.mem_of_mem_group h
    · cases hreference
      exact Context.mem_of_mem_group h
    · split at hreference
      · cases hreference
      · cases hreference
        exact Context.mem_of_mem_named h

/-- Expanding a template brings in characters of the input alone. -/
theorem mem_of_mem_expand {cs : List Char} (h : c ∈ expand x cs) : c ∈ cs ∨ c ∈ x.input := by
  induction cs using expand.induct x with
  | case1 => unfold expand at h; cases h
  | case2 rest length text hreference ih =>
    rw [expand, if_pos rfl, hreference] at h
    obtain h | h := List.mem_append.mp h
    · exact (mem_of_mem_reference? hreference h).imp_left (List.mem_cons_of_mem _)
    · exact (ih h).imp_left fun h => List.mem_cons_of_mem _ (List.mem_of_mem_drop h)
  | case3 rest hreference ih =>
    rw [expand, if_pos rfl, hreference] at h
    obtain rfl | h := List.mem_cons.mp h
    · exact .inl List.mem_cons_self
    · exact (ih h).imp_left (List.mem_cons_of_mem _)
  | case4 d rest hd ih =>
    rw [expand, if_neg hd] at h
    obtain rfl | h := List.mem_cons.mp h
    · exact .inl List.mem_cons_self
    · exact (ih h).imp_left (List.mem_cons_of_mem _)

theorem mem_of_mem_replaceFirst {p : Pattern} {input template : List Char}
    (h : c ∈ replaceFirst p input template) : c ∈ template ∨ c ∈ input := by
  unfold replaceFirst at h
  split at h
  · exact .inr h
  · rw [List.mem_append, List.mem_append] at h
    obtain (h | h) | h := h
    · exact .inr (Span.mem_of_mem_before h)
    · exact mem_of_mem_expand h
    · exact .inr (Span.mem_of_mem_after h)

end Template

/-- **Targets.** Every character of a target is one of the template, of the method or of the
address. -/
theorem Rule.mem_targetFor {r : Rule} {v : RequestView} (h : c ∈ (r.targetFor v).toList) :
    c ∈ r.target.toList ∨ c ∈ v.method.toList ∨ c ∈ v.url.toList := by
  unfold targetFor at h
  rw [String.toList_ofList] at h
  obtain h | h := Template.mem_of_mem_replaceFirst h
  · obtain h | h := Template.mem_of_mem_replaceToken h
    · exact .inr (.inl h)
    · exact .inl h
  · exact .inr (.inr h)

end Detour
