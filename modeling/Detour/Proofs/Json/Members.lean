import Detour.Json.Value
import Mathlib.Data.Nat.Notation

/-!
# The members of an object

An object lists its members by ascending names. So members of different names make the same object
in any order (`Json.ofMembers_of_perm`).
-/

namespace Detour.Json

/-- The names ascend. -/
def Ascending (members : List (String × Json)) : Prop :=
  members.Pairwise fun a b => a.1 < b.1

theorem lt_of_not_lt_of_ne {a b : String} (h : ¬ a < b) (hne : a ≠ b) : b < a :=
  String.not_le.mp fun hle => hne (String.le_antisymm hle (String.not_lt.mp h))

theorem mem_insertMember {name : String} {v : Json} {members : List (String × Json)}
    {m : String × Json} (h : m ∈ insertMember name v members) : m = (name, v) ∨ m ∈ members := by
  induction members with
  | nil => exact .inl (List.mem_singleton.mp h)
  | cons a members ih =>
    unfold insertMember at h
    split at h
    · exact List.mem_cons.mp h
    · split at h
      · rcases List.mem_cons.mp h with h | h
        · exact .inl h
        · exact .inr (List.mem_cons_of_mem _ h)
      · rcases List.mem_cons.mp h with h | h
        · exact .inr (by rw [h]; exact List.mem_cons_self)
        · rcases ih h with h | h
          · exact .inl h
          · exact .inr (List.mem_cons_of_mem _ h)

theorem ascending_insertMember {members : List (String × Json)} (h : Ascending members)
    (name : String) (v : Json) : Ascending (insertMember name v members) := by
  induction members with
  | nil => exact List.pairwise_singleton _ _
  | cons a members ih =>
    obtain ⟨hfirst, hothers⟩ := List.pairwise_cons.mp h
    unfold insertMember
    split
    · rename_i hlt
      refine List.pairwise_cons.mpr ⟨?_, h⟩
      refine List.forall_mem_cons.mpr ⟨hlt, fun m hm => ?_⟩
      exact String.lt_trans hlt (hfirst m hm)
    · rename_i hlt
      split
      · rename_i heq
        exact List.pairwise_cons.mpr ⟨fun m hm => heq ▸ hfirst m hm, hothers⟩
      · rename_i hne
        refine List.pairwise_cons.mpr ⟨fun m hm => ?_, ih hothers⟩
        rcases mem_insertMember hm with rfl | hm
        · exact lt_of_not_lt_of_ne hlt hne
        · exact hfirst m hm

theorem insertMember_perm {name : String} {v : Json} {members : List (String × Json)}
    (h : name ∉ members.map Prod.fst) :
    (insertMember name v members).Perm ((name, v) :: members) := by
  induction members with
  | nil => exact .refl _
  | cons a members ih =>
    rw [List.map_cons, List.mem_cons, not_or] at h
    unfold insertMember
    split
    · exact .refl _
    · rw [if_neg h.1]
      exact ((ih h.2).cons a).trans (.swap _ _ _)

/-- Members of different names, set one after the other. -/
theorem foldl_insertMember {start members : List (String × Json)} (hstart : Ascending start)
    (h : ((start ++ members).map Prod.fst).Nodup) :
    Ascending (members.foldl (fun fields m => insertMember m.1 m.2 fields) start) ∧
      (members.foldl (fun fields m => insertMember m.1 m.2 fields) start).Perm
        (start ++ members) := by
  induction members generalizing start with
  | nil => exact ⟨hstart, by rw [List.append_nil]; exact .refl _⟩
  | cons m members ih =>
    have hmiddle : (start ++ m :: members).Perm (m :: start ++ members) := List.perm_middle
    have hnodup := (hmiddle.map Prod.fst).nodup h
    have hnew : m.1 ∉ start.map Prod.fst := by
      intro hm
      rw [List.cons_append, List.map_cons, List.map_append] at hnodup
      exact (List.nodup_cons.mp hnodup).1 (List.mem_append_left _ hm)
    have hinsert := (insertMember_perm (v := m.2) hnew).append_right members
    obtain ⟨hasc, hperm⟩ := ih (ascending_insertMember hstart m.1 m.2)
      ((hinsert.map Prod.fst).symm.nodup hnodup)
    exact ⟨hasc, hperm.trans (hinsert.trans hmiddle.symm)⟩

/-- Two ascending lists of the same members are the same. -/
theorem Ascending.eq_of_perm {a b : List (String × Json)} (ha : Ascending a) (hb : Ascending b)
    (h : a.Perm b) : a = b := by
  refine List.Perm.eq_of_pairwise (fun x y _ _ hxy hyx => ?_) ha hb h
  exact absurd (String.lt_trans hxy hyx) (String.lt_irrefl _)

theorem Ascending.nodup {members : List (String × Json)} (h : Ascending members) :
    (members.map Prod.fst).Nodup := by
  refine List.pairwise_map.mpr (h.imp fun hlt heq => ?_)
  rw [heq] at hlt
  exact String.lt_irrefl _ hlt

/-- Members in any order make the object that lists them by ascending names. -/
theorem ofMembers_of_perm {members sorted : List (String × Json)} (h : members.Perm sorted)
    (hsorted : Ascending sorted) : ofMembers members = .object sorted := by
  have hnodup : (([] ++ members).map Prod.fst).Nodup := (h.map Prod.fst).symm.nodup hsorted.nodup
  obtain ⟨hasc, hperm⟩ := foldl_insertMember .nil hnodup
  exact congrArg Json.object (hasc.eq_of_perm hsorted (hperm.trans h))

end Detour.Json
