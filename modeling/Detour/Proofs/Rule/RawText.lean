import Detour.Proofs.Json.Members
import Detour.Proofs.Json.RoundTrip
import Detour.Rule.Raw

/-!
# Reading written rules

A raw rule of plain values is read back from the text of its object (`RawRule.ofText_render`).
-/

namespace Detour.RawRule

open JsonText (renderString renderValue renderMembers skipBlanks value)

/-- The values that are not missing, by ascending names. -/
def members (raw : RawRule) : List (String × Json) :=
  (raw.condition.map (("condition", ·))).toList ++ (raw.source.map (("from", ·))).toList ++
    (raw.redirect.map (("redirect", ·))).toList ++ (raw.target.map (("to", ·))).toList

theorem mem_members {raw : RawRule} {m : String × Json} (h : m ∈ raw.members) :
    raw.condition = some m.2 ∨ raw.source = some m.2 ∨ raw.redirect = some m.2 ∨
      raw.target = some m.2 := by
  unfold members at h
  simp only [List.mem_append, Option.mem_toList, Option.map_eq_some_iff] at h
  obtain ((⟨v, hv, rfl⟩ | ⟨v, hv, rfl⟩) | ⟨v, hv, rfl⟩) | ⟨v, hv, rfl⟩ := h
  · exact .inl hv
  · exact .inr (.inl hv)
  · exact .inr (.inr (.inl hv))
  · exact .inr (.inr (.inr hv))

/-- The values are read back from their texts, and none of them stands for a missing one. -/
structure Plain (raw : RawRule) : Prop where
  plain : ∀ m ∈ raw.members, m.2.Plain innerDepth
  given : ∀ m ∈ raw.members, m.2 ≠ .null

theorem sublist_names (raw : RawRule) :
    (raw.members.map Prod.fst).Sublist ["condition", "from", "redirect", "to"] := by
  have hfield : ∀ (name : String) (v : Option Json),
      ((v.map ((name, ·))).toList.map Prod.fst).Sublist [name] := by
    intro name v
    cases v with
    | none => exact List.nil_sublist _
    | some v => exact List.Sublist.refl _
  unfold members
  rw [List.map_append, List.map_append, List.map_append]
  exact (((hfield _ _).append (hfield _ _)).append (hfield _ _)).append (hfield _ _)

theorem ascending_members (raw : RawRule) : Json.Ascending raw.members := by
  have hnames : ["condition", "from", "redirect", "to"].Pairwise fun a b => a < b := by
    decide +kernel
  exact List.pairwise_map.mp (hnames.sublist raw.sublist_names)

theorem mem_fieldNames {raw : RawRule} {m : String × Json} (h : m ∈ raw.members) :
    m.1 ∈ fieldNames := by
  have hname := raw.sublist_names.subset (List.mem_map_of_mem h)
  have hfields : ∀ name ∈ ["condition", "from", "redirect", "to"], name ∈ fieldNames := by
    decide +kernel
  exact hfields m.1 hname

theorem toJson_eq (raw : RawRule) : raw.toJson = .object raw.members := by
  have hfields : raw.toJson = Json.ofMembers ((raw.condition.map (("condition", ·))).toList ++
      (raw.source.map (("from", ·))).toList ++ (raw.target.map (("to", ·))).toList ++
      (raw.redirect.map (("redirect", ·))).toList) := by
    obtain ⟨condition, source, target, redirect⟩ := raw
    cases condition <;> cases source <;> cases target <;> cases redirect <;> rfl
  rw [hfields, List.append_assoc]
  refine Json.ofMembers_of_perm ?_ raw.ascending_members
  unfold members
  rw [List.append_assoc _ _ (raw.target.map _).toList]
  exact List.perm_append_comm.append_left _

theorem given_of_ne_null {v : Json} (h : v ≠ .null) : RecordStyle.json.given v = some v := by
  cases v with
  | null => exact absurd rfl h
  | _ => rfl

/-- The values of the members are found by the names of the fields. -/
theorem member?_members (raw : RawRule) :
    (Json.object raw.members).member? "condition" = raw.condition ∧
      (Json.object raw.members).member? "from" = raw.source ∧
      (Json.object raw.members).member? "to" = raw.target ∧
      (Json.object raw.members).member? "redirect" = raw.redirect := by
  obtain ⟨condition, source, target, redirect⟩ := raw
  cases condition <;> cases source <;> cases target <;> cases redirect <;>
    simp [members, Json.member?]

theorem bind_given {v : Option Json} (h : v ≠ some .null) : v.bind RecordStyle.json.given = v := by
  cases v with
  | none => rfl
  | some v => exact given_of_ne_null fun hv => h (congrArg some hv)

/-- A plain rule is made of its members. -/
theorem ofFields_reverse_members {raw : RawRule} (h : raw.Plain) :
    ofFields raw.members.reverse = raw := by
  obtain ⟨hcondition, hsource, htarget, hredirect⟩ := raw.member?_members
  have hnull : ∀ name, (Json.object raw.members).member? name ≠ some .null := by
    intro name hname
    obtain ⟨m, hm, hv⟩ := Option.map_eq_some_iff.mp hname
    exact h.given m (List.mem_of_find?_eq_some hm) hv
  have hgiven := fun name => bind_given (hnull name)
  unfold ofFields
  rw [Json.ofMembers_of_perm (List.reverse_perm _) raw.ascending_members]
  show RawRule.mk _ _ _ _ = raw
  dsimp only
  rw [hgiven, hgiven, hgiven, hgiven, hcondition, hsource, htarget, hredirect]

section Steps

variable {name : String} {v : Json} {fields : Fields} {fuel : ℕ} {rest : List Char}

/-- What follows the value of a field. -/
def afterField (fuel : ℕ) (fields : Fields) (rest : List Char) :
    Except RawRuleError (Fields × List Char) :=
  match skipBlanks rest with
  | ',' :: rest => readFields fuel fields rest
  | '\x7d' :: rest => .ok (fields, rest)
  | _ => .error .malformed

/-- A field that was not read before. -/
theorem readFields_field (hname : name ∈ fieldNames) (hnew : name ∉ fields.map Prod.fst)
    (hv : v.Plain innerDepth) (hrest : JsonText.EndsNumber rest) :
    readFields (fuel + 1) fields (renderString name ++ ':' :: (renderValue v ++ rest)) =
      afterField fuel ((name, v) :: fields) rest := by
  have hread := JsonText.readString_renderString name (':' :: (renderValue v ++ rest))
  have hvalue := JsonText.value_renderValue hv hrest
  have hknown : fieldNames.contains name = true := List.contains_iff_mem.mpr hname
  have hfirst : (fields.any fun f => decide (f.1 = name)) = false := by
    rw [List.any_eq_false]
    intro f hf h
    exact hnew (List.mem_map.mpr ⟨f, hf, of_decide_eq_true h⟩)
  have htext : renderString name ++ ':' :: (renderValue v ++ rest) =
      '"' :: (name.toList.flatMap JsonText.escapeChar ++
        '"' :: ':' :: (renderValue v ++ rest)) := by
    unfold renderString; simp
  rw [htext, readFields, JsonText.skipBlanks_cons rfl]
  simp only [bind, Except.bind, hread, orMalformed, hknown, hfirst, Bool.and_false,
    Bool.false_eq_true, if_false, if_true, JsonText.skipBlanks_cons (c := ':') rfl, pure,
    Except.pure, hvalue]
  rfl

end Steps

/-- Fields that were not read before are read one after the other. -/
theorem readFields_renderMembers (m : String × Json) (ms : List (String × Json)) (fuel : ℕ)
    (fields : Fields) (rest : List Char) (hplain : Json.PlainMembers innerDepth (m :: ms))
    (hnames : ∀ m' ∈ m :: ms, m'.1 ∈ fieldNames)
    (hnew : ((m :: ms).map Prod.fst ++ fields.map Prod.fst).Nodup) (hfuel : ms.length < fuel) :
    readFields fuel fields (renderMembers (m :: ms) ++ rest) =
      .ok ((m :: ms).reverse ++ fields, rest) := by
  induction ms generalizing m fuel fields with
  | nil =>
    obtain ⟨fuel, rfl⟩ : ∃ n, fuel = n + 1 := ⟨fuel - 1, by omega⟩
    have hfield : m.1 ∉ fields.map Prod.fst := (List.nodup_cons.mp hnew).1
    rw [JsonText.renderMembers_last, List.append_assoc, List.cons_append, List.append_assoc,
      List.singleton_append, readFields_field (hnames m List.mem_cons_self) hfield hplain.1
        (JsonText.endsNumber_brace rest)]
    rfl
  | cons m' ms ih =>
    obtain ⟨fuel, rfl⟩ : ∃ n, fuel = n + 1 := ⟨fuel - 1, by omega⟩
    have hfield : m.1 ∉ fields.map Prod.fst :=
      fun h => (List.nodup_cons.mp hnew).1 (List.mem_append_right _ h)
    have hothers := ih m' fuel (m :: fields) hplain.2
      (fun m'' hm => hnames m'' (List.mem_cons_of_mem _ hm)) (List.perm_middle.nodup_iff.mpr hnew)
      (by rw [List.length_cons] at hfuel; omega)
    rw [JsonText.renderMembers_more, List.append_assoc, List.cons_append, List.append_assoc,
      List.cons_append, readFields_field (hnames m List.mem_cons_self) hfield hplain.1
        (JsonText.endsNumber_comma _)]
    show readFields fuel (m :: fields) (renderMembers (m' :: ms) ++ rest) = _
    rw [hothers, List.reverse_cons (a := m), List.append_assoc, List.singleton_append]

theorem length_le_renderMembers (ms : List (String × Json)) :
    ms.length ≤ (renderMembers ms).length := by
  induction ms with
  | nil => exact Nat.zero_le _
  | cons m ms ih =>
    cases ms with
    | nil =>
      rw [JsonText.renderMembers_last]
      simp only [List.length_append, List.length_cons, List.length_nil]
      omega
    | cons m' ms =>
      rw [JsonText.renderMembers_more]
      simp only [List.length_append, List.length_cons] at ih ⊢
      omega

/-- **Round trip.** A plain raw rule is read back from its text. -/
theorem ofText_render {raw : RawRule} (h : raw.Plain) : ofText raw.toJson.render = .ok raw := by
  have htext : raw.toJson.render.toList = '\x7b' :: renderMembers raw.members := by
    rw [toJson_eq, Json.render, String.toList_ofList]; rfl
  have hfields := ofFields_reverse_members h
  unfold ofText
  rw [htext, JsonText.skipBlanks_cons rfl]
  cases hmembers : raw.members with
  | nil =>
    rw [hmembers] at hfields
    rw [← hfields]
    rfl
  | cons m ms =>
    have hnodup := raw.ascending_members.nodup
    obtain ⟨cs, hcs⟩ := JsonText.renderMembers_cons m.1 m.2 ms
    have hlength := length_le_renderMembers (m :: ms)
    have hread := readFields_renderMembers m ms ((renderMembers (m :: ms)).length + 1) [] []
      (Json.plainMembers_iff.mpr (hmembers ▸ h.plain)) (fun m hm => mem_fieldNames (hmembers ▸ hm))
      (by rw [hmembers] at hnodup; simpa using hnodup)
      (by rw [List.length_cons] at hlength; omega)
    rw [List.append_nil, List.append_nil, hcs] at hread
    rw [hcs]
    simp only [JsonText.skipBlanks_cons (c := '"') rfl]
    split
    · next heq => cases heq
    · rw [hread, ← hmembers]
      exact congrArg Except.ok hfields

end Detour.RawRule
