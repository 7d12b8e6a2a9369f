import Detour.Config.Load
import Mathlib.Data.List.Basic
import Mathlib.Data.List.Induction

/-!
# Documents that differ in one field

A record in a TOML document is a table, or an array of its fields in their order. When two records
differ in one field, every other field is read alike (`Toml.DifferInField.fields?`), and when two
arrays differ in one item, so are all other items (`Toml.DifferInItem.mapM_iff`).
-/

namespace Detour

/-! ## Members of an object -/

namespace Json

theorem find?_insertMember (n name : String) (v : Json) (fields : List (String × Json)) :
    ((insertMember name v fields).find? fun m => m.1 = n).map Prod.snd =
      if name = n then some v else (fields.find? fun m => m.1 = n).map Prod.snd := by
  induction fields with
  | nil => by_cases h : name = n <;> simp [insertMember, h]
  | cons m fields ih =>
    unfold insertMember
    split
    · by_cases h : name = n <;> simp [h]
    · split
      · rename_i heq
        by_cases h : name = n
        · simp [h]
        · simp [h, ← heq]
      · by_cases hm : m.1 = n
        · have hne : name ≠ n := by
            rintro rfl
            exact absurd hm.symm ‹_›
          simp [hm, hne]
        · simp only [List.find?_cons, hm, decide_false]
          exact ih

/-- Of members with one name the last counts. -/
theorem member?_ofMembers (n : String) (members : List (String × Json)) :
    (ofMembers members).member? n =
      (members.reverse.find? fun m => m.1 = n).map Prod.snd := by
  induction members using List.reverseRecOn with
  | nil => rfl
  | append_singleton members m ih =>
    have hinsert := find?_insertMember n m.1 m.2
      (members.foldl (fun fields m => insertMember m.1 m.2 fields) [])
    unfold ofMembers member? at ih ⊢
    rw [List.foldl_append, List.reverse_append]
    show ((insertMember m.1 m.2 _).find? _).map _ = ((m :: members.reverse).find? _).map _
    rw [hinsert, List.find?_cons]
    by_cases h : m.1 = n
    · simp [h]
    · simp only [h, decide_false, if_false]
      exact ih

end Json

/-! ## Records -/

namespace Toml

theorem membersToJson_eq (members : List (String × Toml)) :
    membersToJson members = members.map fun m => (m.1, m.2.toJson) := by
  induction members with
  | nil => rfl
  | cons m members ih => rw [List.map_cons, ← ih]; rfl

theorem itemsToJson_eq (items : List Toml) : itemsToJson items = items.map toJson := by
  induction items with
  | nil => rfl
  | cons v items ih => rw [List.map_cons, ← ih]; rfl

/-- The fields of a table; a name that stands there twice counts for the last time. -/
theorem fields?_table (names : List String) (members : List (String × Toml)) :
    RecordStyle.toml.fields? names (table members).toJson = some fun name =>
      (members.reverse.find? fun m => m.1 = name).map fun m => m.2.toJson := by
  have hmember := fun name => Json.member?_ofMembers name (membersToJson members)
  have hobject : RecordStyle.toml.fields? names (table members).toJson =
    some fun name => (Json.ofMembers (membersToJson members)).member? name := rfl
  rw [hobject]
  congr
  funext name
  rw [hmember, membersToJson_eq, ← List.map_reverse, List.find?_map, Option.map_map]
  rfl

/-- The fields of an array. -/
theorem fields?_array (names : List String) (items : List Toml) :
    RecordStyle.toml.fields? names (array items).toJson =
      some fun name => items[names.idxOf name]?.map toJson := by
  have harray : RecordStyle.toml.fields? names (array items).toJson =
      some fun name => (itemsToJson items)[names.idxOf name]? := by
    have hextra : ((itemsToJson items).length ≤ names.length || RecordStyle.toml.extraItems) = true :=
      Bool.or_true _
    exact if_pos hextra
  rw [harray]
  congr
  funext name
  rw [itemsToJson_eq, List.getElem?_map]

/-- Two records with the given fields differ in one of them, where they hold related values. The
names in a table differ, so that the field is the last of its name. -/
inductive DifferInField (names : List String) (name : String) (R : Toml → Toml → Prop) :
    Toml → Toml → Prop
  | table {front back : List (String × Toml)} {v w : Toml} (h : R v w)
    (hlast : name ∉ back.map Prod.fst) : DifferInField names name R
      (.table (front ++ (name, v) :: back)) (.table (front ++ (name, w) :: back))
  | array {front back : List Toml} {v w : Toml} (h : R v w)
    (hplace : front.length = names.idxOf name) :
    DifferInField names name R (.array (front ++ v :: back)) (.array (front ++ w :: back))

/-- Two arrays differ in one item, where they hold related values. -/
inductive DifferInItem (i : ℕ) (R : Toml → Toml → Prop) : Toml → Toml → Prop
  | array {front back : List Toml} {v w : Toml} (h : R v w) (hplace : front.length = i) :
    DifferInItem i R (.array (front ++ v :: back)) (.array (front ++ w :: back))

variable {names : List String} {name : String} {R S : Toml → Toml → Prop} {d d' : Toml}

theorem DifferInField.symm (h : DifferInField names name R d d')
    (hR : ∀ v w, R v w → S w v) : DifferInField names name S d' d := by
  cases h with
  | table h hlast => exact .table (hR _ _ h) hlast
  | array h hplace => exact .array (hR _ _ h) hplace

theorem DifferInItem.symm {i : ℕ} (h : DifferInItem i R d d') (hR : ∀ v w, R v w → S w v) :
    DifferInItem i S d' d := by
  cases h with
  | array h hplace => exact .array (hR _ _ h) hplace

theorem getElem?_append_cons {front back : List Toml} {k : ℕ} (v w : Toml) (h : k ≠ front.length) :
    (front ++ w :: back)[k]? = (front ++ v :: back)[k]? := by
  have hset : (front ++ v :: back).set front.length w = front ++ w :: back := by
    rw [List.set_append_right _ _ (Nat.le_refl _), Nat.sub_self]
    rfl
  rw [← hset, List.getElem?_set_ne (Ne.symm h)]

/-- All other fields are read alike. -/
theorem DifferInField.fields? (h : DifferInField names name R d d') :
    ∃ field field' v w, R v w ∧ RecordStyle.toml.fields? names d.toJson = some field ∧
      RecordStyle.toml.fields? names d'.toJson = some field' ∧ field name = some v.toJson ∧
        field' name = some w.toJson ∧ ∀ other ∈ names, other ≠ name → field' other = field other := by
  cases h with
  | @table front back v w h hlast =>
    have hback : back.reverse.find? (fun m => m.1 = name) = none := by
      rw [List.find?_eq_none]
      intro m hm hname
      have hmem := List.mem_map_of_mem (f := Prod.fst) (List.mem_reverse.mp hm)
      rw [of_decide_eq_true hname] at hmem
      exact hlast hmem
    have hreverse : ∀ u : Toml, (front ++ (name, u) :: back).reverse =
        back.reverse ++ (name, u) :: front.reverse := by
      intro u
      simp
    refine ⟨_, _, v, w, h, fields?_table .., fields?_table .., ?_, ?_, ?_⟩
    · rw [hreverse, List.find?_append, hback]
      simp
    · rw [hreverse, List.find?_append, hback]
      simp
    · intro other _ hne
      have hskip : ((name, w) :: front.reverse).find? (fun m => m.1 = other) =
          ((name, v) :: front.reverse).find? fun m => m.1 = other := by
        simp [Ne.symm hne]
      rw [hreverse, hreverse, List.find?_append, List.find?_append, hskip]
  | @array front back v w h hplace =>
    refine ⟨_, _, v, w, h, fields?_array .., fields?_array .., ?_, ?_, ?_⟩
    · simp [← hplace]
    · simp [← hplace]
    · intro other hother hne
      have hplaces : names.idxOf other ≠ front.length := by
        rw [hplace]
        intro heq
        exact hne ((List.idxOf_inj hother).mp heq)
      show Option.map _ _ = Option.map _ _
      rw [getElem?_append_cons v w hplaces]

end Toml

/-! ## Lists -/

section Lists

variable {α β : Type} {f : α → Option β}

/-- A list is read if all its items are. -/
theorem mapM_eq_some_iff {l : List α} {m : List β} : l.mapM f = some m ↔ l.map f = m.map some := by
  induction l generalizing m with
  | nil => cases m <;> simp
  | cons a l ih =>
    rw [List.mapM_cons]
    cases hfirst : f a with
    | none => cases m <;> simp [hfirst]
    | some b =>
      cases m with
      | nil => simp [Option.bind_eq_some_iff, hfirst]
      | cons c m => simp [Option.bind_eq_some_iff, hfirst, ih, and_comm]

theorem mapM_append_cons_eq_some_iff {front back : List α} {v : α} {m : List β} :
    (front ++ v :: back).mapM f = some m ↔ ∃ a r b, front.map f = a.map some ∧ f v = some r ∧
      back.map f = b.map some ∧ m = a ++ r :: b := by
  rw [mapM_eq_some_iff, List.map_append, List.map_cons]
  constructor
  · intro h
    obtain ⟨a, rest, rfl, ha, hrest⟩ := List.map_eq_append_iff.mp h.symm
    obtain ⟨r, b, rfl, hr, hb⟩ := List.map_eq_cons_iff.mp hrest
    exact ⟨a, r, b, ha.symm, hr.symm, hb.symm, rfl⟩
  · rintro ⟨a, r, b, ha, hr, hb, rfl⟩
    rw [ha, hr, hb, List.map_append, List.map_cons]

end Lists

end Detour
