import Detour.Proofs.Config.Field
import Detour.Proofs.Config.Problems
import Detour.Proofs.Store.Change

/-!
# What a configuration does not depend on

The values inside a rule may be of any kind. A document in which one of them is another one is
loaded alike, up to that value, and the store of its rules holds all other rules as before. The same
goes for the addresses and keys of sections that are turned off (`Config.loads_alike`).
-/

namespace Detour

open Toml

/-! ## Rules -/

namespace RawRule

/-- The value of the field with the given name. -/
def value? (r : RawRule) : String → Option Json
  | "condition" => r.condition
  | "from" => r.source
  | "to" => r.target
  | "redirect" => r.redirect
  | _ => none

/-- All fields but one have the same values. -/
def AgreeBut (name : String) (r r' : RawRule) : Prop :=
  ∀ other ∈ fieldNames, other ≠ name → r'.value? other = r.value? other

theorem given_toml (v : Json) : RecordStyle.toml.given v = some v := by
  cases v <;> rfl

/-- In a TOML document any values make a rule. -/
theorem exists_ofValue?_toml {v : Json} {field : String → Option Json}
    (h : RecordStyle.toml.fields? fieldNames v = some field) :
    ∃ r, ofValue? .toml v = some r ∧ ∀ name ∈ fieldNames, r.value? name = field name := by
  have hgiven : ∀ name, (field name).bind RecordStyle.toml.given = field name := by
    intro name
    cases field name with
    | none => rfl
    | some v => exact given_toml v
  refine ⟨⟨field "condition", field "from", field "to", field "redirect"⟩, ?_, ?_⟩
  · unfold ofValue?
    rw [h]
    simp only [Option.map_some, hgiven]
  · simp [fieldNames, value?]

theorem ofValue?_of_differInField {name : String} {R : Toml → Toml → Prop} {d d' : Toml}
    (hname : name ∈ fieldNames) (h : DifferInField fieldNames name R d d') :
    ∃ r r' v w, R v w ∧ ofValue? .toml d.toJson = some r ∧ ofValue? .toml d'.toJson = some r' ∧
      r.value? name = some v.toJson ∧ r'.value? name = some w.toJson ∧ AgreeBut name r r' := by
  obtain ⟨field, field', v, w, hR, hfield, hfield', hv, hw, hothers⟩ := h.fields?
  obtain ⟨r, hr, hvalue⟩ := exists_ofValue?_toml hfield
  obtain ⟨r', hr', hvalue'⟩ := exists_ofValue?_toml hfield'
  refine ⟨r, r', v, w, hR, hr, hr', ?_, ?_, fun other hother hne => ?_⟩
  · rw [hvalue name hname, hv]
  · rw [hvalue' name hname, hw]
  · rw [hvalue other hother, hvalue' other hother, hothers other hother hne]

end RawRule

namespace Config

/-! ## Sections -/

def fieldNames : List String :=
  ["listener", "server", "logging", "observability", "admin", "rules"]

/-- The configuration is read from the fields of its document. -/
structure IsReadFrom (field : String → Option Json) (c : Config) : Prop where
  listener : fieldOr {} (listener? .toml) (field "listener") = some c.listener
  server : fieldOr {} (server? .toml) (field "server") = some c.server
  logging : fieldOr {} (logging? .toml) (field "logging") = some c.logging
  observability : fieldOr {} (observability? .toml) (field "observability") = some c.observability
  admin : fieldOr {} (admin? .toml) (field "admin") = some c.admin
  rules : fieldOr [] (rules? .toml) (field "rules") = some c.rules

theorem ofValue?_eq_some_iff {v : Json} {c : Config} : ofValue? .toml v = some c ↔
    ∃ field, RecordStyle.toml.fields? fieldNames v = some field ∧ c.IsReadFrom field := by
  unfold ofValue?
  simp only [bind, pure, Option.bind_eq_some_iff, Option.some.injEq]
  constructor
  · rintro ⟨field, hfield, listener, h1, server, h2, logging, h3, observability, h4, admin, h5,
      rules, h6, rfl⟩
    exact ⟨field, hfield, h1, h2, h3, h4, h5, h6⟩
  · rintro ⟨field, hfield, h⟩
    exact ⟨field, hfield, _, h.listener, _, h.server, _, h.logging, _, h.observability, _, h.admin,
      _, h.rules, rfl⟩

theorem observability?_eq_some_iff {v : Json} {o : ObservabilityConfig} :
    observability? .toml v = some o ↔
    ∃ field, RecordStyle.toml.fields? ["metrics_enabled", "metrics_address"] v = some field ∧
      fieldOr false flag? (field "metrics_enabled") = some o.metricsEnabled ∧
      fieldOr "0.0.0.0:9090" text? (field "metrics_address") = some o.metricsAddress := by
  unfold observability?
  simp only [bind, pure, Option.bind_eq_some_iff, Option.some.injEq]
  constructor
  · rintro ⟨field, hfield, enabled, h1, address, h2, rfl⟩
    exact ⟨field, hfield, h1, h2⟩
  · rintro ⟨field, hfield, h1, h2⟩
    exact ⟨field, hfield, _, h1, _, h2, rfl⟩

theorem admin?_eq_some_iff {v : Json} {a : AdminConfig} : admin? .toml v = some a ↔
    ∃ field, RecordStyle.toml.fields? ["enabled", "api_key", "bind_address"] v = some field ∧
      fieldOr false flag? (field "enabled") = some a.enabled ∧
      fieldOr "" text? (field "api_key") = some a.apiKey ∧
      fieldOr "127.0.0.1:8081" text? (field "bind_address") = some a.bindAddress := by
  unfold admin?
  simp only [bind, pure, Option.bind_eq_some_iff, Option.some.injEq]
  constructor
  · rintro ⟨field, hfield, enabled, h1, key, h2, address, h3, rfl⟩
    exact ⟨field, hfield, h1, h2, h3⟩
  · rintro ⟨field, hfield, h1, h2, h3⟩
    exact ⟨field, hfield, _, h1, _, h2, _, h3, rfl⟩

theorem rules?_array (items : List Toml) :
    rules? .toml (array items).toJson = items.mapM fun v => RawRule.ofValue? .toml v.toJson := by
  show (itemsToJson items).mapM _ = _
  rw [itemsToJson_eq, List.mapM_map]
  rfl

/-! ## Another section -/

section Sections

variable {R : Toml → Toml → Prop} {d d' : Toml} {c : Config}

/-- The fields of both documents: all but those of one section are the same. -/
theorem exists_fields_of_differ {name : String} (h : DifferInField fieldNames name R d d')
    (hc : ofValue? .toml d.toJson = some c) :
    ∃ field field' v w, R v w ∧ c.IsReadFrom field ∧ field name = some v.toJson ∧
      field' name = some w.toJson ∧
      (∀ other ∈ fieldNames, other ≠ name → field' other = field other) ∧
      ∀ c' : Config, c'.IsReadFrom field' → ofValue? .toml d'.toJson = some c' := by
  obtain ⟨field, hfield, hread⟩ := ofValue?_eq_some_iff.mp hc
  obtain ⟨_, field', v, w, hR, hsame, hfield', hv, hw, hothers⟩ := h.fields?
  cases hfield.symm.trans hsame
  exact ⟨field, field', v, w, hR, hread, hv, hw, hothers, fun c' hread' =>
    ofValue?_eq_some_iff.mpr ⟨field', hfield', hread'⟩⟩

theorem exists_of_differInRules (h : DifferInField fieldNames "rules" R d d')
    (hc : ofValue? .toml d.toJson = some c) :
    ∃ v w, R v w ∧ rules? .toml v.toJson = some c.rules ∧ ∀ rules,
      rules? .toml w.toJson = some rules →
        ofValue? .toml d'.toJson = some { c with rules := rules } := by
  obtain ⟨field, field', v, w, hR, hread, hv, hw, hothers, hmake⟩ := exists_fields_of_differ h hc
  have hrules := hread.rules
  rw [hv] at hrules
  refine ⟨v, w, hR, hrules, fun rules hrules' => hmake _ ?_⟩
  constructor
  · rw [hothers _ (by decide) (by decide)]; exact hread.listener
  · rw [hothers _ (by decide) (by decide)]; exact hread.server
  · rw [hothers _ (by decide) (by decide)]; exact hread.logging
  · rw [hothers _ (by decide) (by decide)]; exact hread.observability
  · rw [hothers _ (by decide) (by decide)]; exact hread.admin
  · rw [hw]; exact hrules'

theorem exists_of_differInObservability (h : DifferInField fieldNames "observability" R d d')
    (hc : ofValue? .toml d.toJson = some c) :
    ∃ v w, R v w ∧ observability? .toml v.toJson = some c.observability ∧ ∀ o,
      observability? .toml w.toJson = some o →
        ofValue? .toml d'.toJson = some { c with observability := o } := by
  obtain ⟨field, field', v, w, hR, hread, hv, hw, hothers, hmake⟩ := exists_fields_of_differ h hc
  have hobservability := hread.observability
  rw [hv] at hobservability
  refine ⟨v, w, hR, hobservability, fun o ho => hmake _ ?_⟩
  constructor
  · rw [hothers _ (by decide) (by decide)]; exact hread.listener
  · rw [hothers _ (by decide) (by decide)]; exact hread.server
  · rw [hothers _ (by decide) (by decide)]; exact hread.logging
  · rw [hw]; exact ho
  · rw [hothers _ (by decide) (by decide)]; exact hread.admin
  · rw [hothers _ (by decide) (by decide)]; exact hread.rules

theorem exists_of_differInAdmin (h : DifferInField fieldNames "admin" R d d')
    (hc : ofValue? .toml d.toJson = some c) :
    ∃ v w, R v w ∧ admin? .toml v.toJson = some c.admin ∧ ∀ a,
      admin? .toml w.toJson = some a → ofValue? .toml d'.toJson = some { c with admin := a } := by
  obtain ⟨field, field', v, w, hR, hread, hv, hw, hothers, hmake⟩ := exists_fields_of_differ h hc
  have hadmin := hread.admin
  rw [hv] at hadmin
  refine ⟨v, w, hR, hadmin, fun a ha => hmake _ ?_⟩
  constructor
  · rw [hothers _ (by decide) (by decide)]; exact hread.listener
  · rw [hothers _ (by decide) (by decide)]; exact hread.server
  · rw [hothers _ (by decide) (by decide)]; exact hread.logging
  · rw [hothers _ (by decide) (by decide)]; exact hread.observability
  · rw [hw]; exact ha
  · rw [hothers _ (by decide) (by decide)]; exact hread.rules

end Sections

/-! ## Another value in a rule -/

/-- Two documents differ in one field of the rule with the number `i`. -/
def DifferInRule (i : ℕ) (name : String) (v w : Toml) : Toml → Toml → Prop :=
  DifferInField fieldNames "rules"
    (DifferInItem i (DifferInField RawRule.fieldNames name fun a b => a = v ∧ b = w))

/-- Two configurations differ in one field of the rule with the number `i`, where each holds what is
written there. -/
def AgreeButRule (i : ℕ) (name : String) (v w : Toml) (c c' : Config) : Prop :=
  c' = { c with rules := c'.rules } ∧ ∃ before r r' after,
    c.rules = before ++ r :: after ∧ c'.rules = before ++ r' :: after ∧ before.length = i ∧
      r.AgreeBut name r' ∧ r.value? name = some v.toJson ∧ r'.value? name = some w.toJson

variable {i : ℕ} {name : String} {v w d d' : Toml} {c c' : Config}

theorem DifferInRule.symm (h : DifferInRule i name v w d d') : DifferInRule i name w v d' d :=
  DifferInField.symm h fun _ _ h => h.symm fun _ _ h => h.symm fun _ _ h => ⟨h.2, h.1⟩

theorem exists_of_differInRule (hname : name ∈ RawRule.fieldNames)
    (h : DifferInRule i name v w d d') (hc : ofValue? .toml d.toJson = some c) :
    ∃ c', ofValue? .toml d'.toJson = some c' ∧ AgreeButRule i name v w c c' := by
  obtain ⟨_, _, hitem, hrules, hreplace⟩ := exists_of_differInRules h hc
  cases hitem with
  | @array front back a b hrule hplace =>
    obtain ⟨r, r', _, _, ⟨rfl, rfl⟩, hr, hr', hv, hw, hagree⟩ :=
      RawRule.ofValue?_of_differInField hname hrule
    obtain ⟨before, r₀, after, hbefore, hr₀, hafter, heq⟩ :=
      mapM_append_cons_eq_some_iff.mp ((rules?_array _).symm.trans hrules)
    cases hr₀.symm.trans hr
    have hrules' : rules? .toml (array (front ++ b :: back)).toJson =
        some (before ++ r' :: after) := by
      rw [rules?_array]
      exact mapM_append_cons_eq_some_iff.mpr ⟨before, r', after, hbefore, hr', hafter, rfl⟩
    have hlength : before.length = i := by
      have hlengths := congrArg List.length hbefore
      rw [List.length_map, List.length_map] at hlengths
      omega
    exact ⟨_, hreplace _ hrules', rfl, before, r, r', after, heq, rfl, hlength, hagree, hv, hw⟩

/-- The store of the rules holds all other rules as before. -/
theorem AgreeButRule.store (h : AgreeButRule i name v w c c') : ∃ r r' : Option Rule,
    (Store.ofRaw c.rules).rules = Store.accepted (c.rules.take i) ++ r.toList ++
      Store.accepted (c.rules.drop (i + 1)) ∧
    (Store.ofRaw c'.rules).rules = Store.accepted (c.rules.take i) ++ r'.toList ++
      Store.accepted (c.rules.drop (i + 1)) := by
  obtain ⟨-, before, r, r', after, hrules, hrules', rfl, -⟩ := h
  have haccepted : ∀ raw, Store.accepted (before ++ raw :: after) =
      Store.accepted before ++ (Rule.compile raw).toOption.toList ++ Store.accepted after := by
    intro raw
    have hraw : Store.accepted (raw :: after) =
        (Rule.compile raw).toOption.toList ++ Store.accepted after := by
      unfold Store.accepted
      rw [List.filterMap_cons]
      cases (Rule.compile raw).toOption <;> rfl
    rw [Store.accepted_append, hraw, List.append_assoc]
  refine ⟨(Rule.compile r).toOption, (Rule.compile r').toOption, ?_, ?_⟩
  · rw [Store.rules_ofRaw, hrules, haccepted]
    simp
  · rw [Store.rules_ofRaw, hrules', hrules, haccepted]
    simp

/-! ## Another text in a section -/

/-- Both values are texts. -/
def BothTexts (v w : Toml) : Prop := ∃ s t, v = .string s ∧ w = .string t

theorem BothTexts.symm (h : BothTexts v w) : BothTexts w v := by
  obtain ⟨s, t, hs, ht⟩ := h
  exact ⟨t, s, ht, hs⟩

theorem exists_metricsAddress {o : ObservabilityConfig} (h : DifferInField
    ["metrics_enabled", "metrics_address"] "metrics_address" BothTexts d d')
    (ho : observability? .toml d.toJson = some o) :
    ∃ t, observability? .toml d'.toJson = some { o with metricsAddress := t } := by
  obtain ⟨field, hfield, henabled, haddress⟩ := observability?_eq_some_iff.mp ho
  obtain ⟨_, field', v, w, ⟨s, t, rfl, rfl⟩, hsame, hfield', hv, hw, hothers⟩ := h.fields?
  cases hfield.symm.trans hsame
  refine ⟨t, observability?_eq_some_iff.mpr ⟨field', hfield', ?_, ?_⟩⟩
  · rw [hothers _ (by decide) (by decide)]
    exact henabled
  · rw [hw]
    rfl

theorem exists_apiKey {a : AdminConfig} (h : DifferInField
    ["enabled", "api_key", "bind_address"] "api_key" BothTexts d d')
    (ha : admin? .toml d.toJson = some a) :
    ∃ t, admin? .toml d'.toJson = some { a with apiKey := t } := by
  obtain ⟨field, hfield, henabled, hkey, haddress⟩ := admin?_eq_some_iff.mp ha
  obtain ⟨_, field', v, w, ⟨s, t, rfl, rfl⟩, hsame, hfield', hv, hw, hothers⟩ := h.fields?
  cases hfield.symm.trans hsame
  refine ⟨t, admin?_eq_some_iff.mpr ⟨field', hfield', ?_, ?_, ?_⟩⟩
  · rw [hothers _ (by decide) (by decide)]
    exact henabled
  · rw [hw]
    rfl
  · rw [hothers _ (by decide) (by decide)]
    exact haddress

theorem exists_adminAddress {a : AdminConfig} (h : DifferInField
    ["enabled", "api_key", "bind_address"] "bind_address" BothTexts d d')
    (ha : admin? .toml d.toJson = some a) :
    ∃ t, admin? .toml d'.toJson = some { a with bindAddress := t } := by
  obtain ⟨field, hfield, henabled, hkey, haddress⟩ := admin?_eq_some_iff.mp ha
  obtain ⟨_, field', v, w, ⟨s, t, rfl, rfl⟩, hsame, hfield', hv, hw, hothers⟩ := h.fields?
  cases hfield.symm.trans hsame
  refine ⟨t, admin?_eq_some_iff.mpr ⟨field', hfield', ?_, ?_, ?_⟩⟩
  · rw [hothers _ (by decide) (by decide)]
    exact henabled
  · rw [hothers _ (by decide) (by decide)]
    exact hkey
  · rw [hw]
    rfl

/-! ## Loading -/

/-- The two texts are refused for the same reasons, or their configurations agree. -/
structure LoadAlike (agree : Config → Config → Prop) (text text' : String) : Prop where
  parse : ∀ e, Config.parse text = .error e ↔ Config.parse text' = .error e
  load : ∀ e, ofText text = .error e ↔ ofText text' = .error e
  agree : ∀ c c', Config.parse text = .ok c → Config.parse text' = .ok c' → agree c c'

theorem parse_eq_ok_iff {text : String} (hd : Toml.ofText? text = some d) :
    parse text = .ok c ↔ ofValue? .toml d.toJson = some c := by
  unfold parse
  rw [hd, Option.bind_some]
  cases ofValue? .toml d.toJson <;> simp

theorem parse_eq_error {text : String} {e : ConfigError} (h : ∀ c, parse text ≠ .ok c) :
    parse text = .error e ↔ e = .malformed := by
  unfold parse at h ⊢
  split
  · rename_i c hc
    rw [hc] at h
    exact absurd rfl (h c)
  · simp [eq_comm]

/-- It is enough that each configuration has one on the other side that agrees and has the same
problems. -/
theorem loadAlike_of {agree : Config → Config → Prop} {text text' : String}
    (hd : Toml.ofText? text = some d) (hd' : Toml.ofText? text' = some d')
    (h : ∀ c, ofValue? .toml d.toJson = some c →
      ∃ c', ofValue? .toml d'.toJson = some c' ∧ agree c c' ∧ c'.problems = c.problems)
    (h' : ∀ c', ofValue? .toml d'.toJson = some c' → ∃ c, ofValue? .toml d.toJson = some c) :
    LoadAlike agree text text' := by
  cases hc : ofValue? .toml d.toJson with
  | none =>
    have hno : ∀ c, parse text ≠ .ok c := by
      intro c hparse
      rw [parse_eq_ok_iff hd, hc] at hparse
      cases hparse
    have hno' : ∀ c, parse text' ≠ .ok c := by
      intro c' hparse
      obtain ⟨c, hc'⟩ := h' c' ((parse_eq_ok_iff hd').mp hparse)
      rw [hc] at hc'
      cases hc'
    have herror := (parse_eq_error hno).mpr rfl
    have herror' := (parse_eq_error hno').mpr rfl
    refine ⟨fun e => ?_, fun e => ?_, fun c c' hparse => absurd hparse (hno c)⟩
    · rw [parse_eq_error hno, parse_eq_error hno']
    · rw [ofText_of_error herror, ofText_of_error herror']
  | some c =>
    obtain ⟨c', hc', hagree, hproblems⟩ := h c hc
    have hparse := (parse_eq_ok_iff hd).mpr hc
    have hparse' := (parse_eq_ok_iff hd').mpr hc'
    refine ⟨fun e => ?_, fun e => ?_, fun c₁ c₁' h₁ h₁' => ?_⟩
    · rw [hparse, hparse']
      simp
    · rw [ofText_of_parse hparse, ofText_of_parse hparse', hproblems]
      split <;> simp
    · cases hparse.symm.trans h₁
      cases hparse'.symm.trans h₁'
      exact hagree

theorem loadAlike_of_differInRule {text text' : String} (hd : Toml.ofText? text = some d)
    (hd' : Toml.ofText? text' = some d') (hname : name ∈ RawRule.fieldNames)
    (h : DifferInRule i name v w d d') : LoadAlike (AgreeButRule i name v w) text text' := by
  refine loadAlike_of hd hd' (fun c hc => ?_) fun c' hc' => ?_
  · obtain ⟨c', hc', hagree⟩ := exists_of_differInRule hname h hc
    refine ⟨c', hc', hagree, ?_⟩
    rw [hagree.1]
    rfl
  · obtain ⟨c, hc, -⟩ := exists_of_differInRule hname h.symm hc'
    exact ⟨c, hc⟩

theorem loadAlike_of_differInMetrics {text text' : String} (hd : Toml.ofText? text = some d)
    (hd' : Toml.ofText? text' = some d')
    (disabled : ∀ c, parse text = .ok c → c.observability.metricsEnabled = false)
    (h : DifferInField fieldNames "observability" (DifferInField
      ["metrics_enabled", "metrics_address"] "metrics_address" BothTexts) d d') :
    LoadAlike (fun c c' => ∃ t, c' =
      { c with observability := { c.observability with metricsAddress := t } }) text text' := by
  refine loadAlike_of hd hd' (fun c hc => ?_) fun c' hc' => ?_
  · obtain ⟨o, o', hdiffer, ho, hreplace⟩ := exists_of_differInObservability h hc
    obtain ⟨t, ht⟩ := exists_metricsAddress hdiffer ho
    refine ⟨_, hreplace _ ht, ⟨t, rfl⟩, ?_⟩
    simp [problems, disabled c ((parse_eq_ok_iff hd).mpr hc)]
  · have hsymm := h.symm fun _ _ h => h.symm fun _ _ h => BothTexts.symm h
    obtain ⟨o, o', hdiffer, ho, hreplace⟩ := exists_of_differInObservability hsymm hc'
    obtain ⟨t, ht⟩ := exists_metricsAddress hdiffer ho
    exact ⟨_, hreplace _ ht⟩

theorem loadAlike_of_differInAdmin {R : Toml → Toml → Prop} {f : AdminConfig → String → AdminConfig}
    {text text' : String} (hd : Toml.ofText? text = some d) (hd' : Toml.ofText? text' = some d')
    (disabled : ∀ c, parse text = .ok c → c.admin.enabled = false)
    (hkept : ∀ a t, (f a t).enabled = a.enabled) (hR : ∀ v w, R v w → R w v)
    (hread : ∀ v w a, R v w → admin? .toml v.toJson = some a →
      ∃ t, admin? .toml w.toJson = some (f a t))
    (h : DifferInField fieldNames "admin" R d d') :
    LoadAlike (fun c c' => ∃ t, c' = { c with admin := f c.admin t }) text text' := by
  refine loadAlike_of hd hd' (fun c hc => ?_) fun c' hc' => ?_
  · obtain ⟨a, a', hdiffer, ha, hreplace⟩ := exists_of_differInAdmin h hc
    obtain ⟨t, ht⟩ := hread _ _ _ hdiffer ha
    refine ⟨_, hreplace _ ht, ⟨t, rfl⟩, ?_⟩
    simp [problems, hkept, disabled c ((parse_eq_ok_iff hd).mpr hc)]
  · obtain ⟨a, a', hdiffer, ha, hreplace⟩ := exists_of_differInAdmin (h.symm hR) hc'
    obtain ⟨t, ht⟩ := hread _ _ _ hdiffer ha
    exact ⟨_, hreplace _ ht⟩

/-- **Loading.** A file that describes a configuration is loaded just if all settings in use are
sound; else all problems are reported, each check once and in order. Nothing else counts. If two
files differ in one value inside a rule, whatever kinds of values these are, or in an address or the
key of a section that is turned off, they are refused for the same reasons, and their configurations
differ in nothing else. The store of the rules then holds all other rules as they were. -/
theorem loads_alike :
    (∀ (bytes : ByteArray) (text : String) (c : Config),
      String.fromUTF8? bytes = some text → parse text = .ok c →
        (load (some bytes) = .ok c ↔ c.IsSound) ∧
        (¬ c.IsSound → load (some bytes) = .error (.invalid c.problems)) ∧
        (∀ p, p ∈ c.problems ↔ c.Fails p) ∧
        c.problems.Pairwise fun p q => p.place < q.place) ∧
    ∀ (text text' : String) (d d' : Toml),
      Toml.ofText? text = some d → Toml.ofText? text' = some d' →
        (∀ i name v w, name ∈ RawRule.fieldNames → DifferInRule i name v w d d' →
          LoadAlike (AgreeButRule i name v w) text text' ∧
          ∀ c c', parse text = .ok c → parse text' = .ok c' → ∃ r r' : Option Rule,
            (Store.ofRaw c.rules).rules = Store.accepted (c.rules.take i) ++ r.toList ++
              Store.accepted (c.rules.drop (i + 1)) ∧
            (Store.ofRaw c'.rules).rules = Store.accepted (c.rules.take i) ++ r'.toList ++
              Store.accepted (c.rules.drop (i + 1))) ∧
        ((∀ c, parse text = .ok c → c.observability.metricsEnabled = false) →
          DifferInField fieldNames "observability" (DifferInField
            ["metrics_enabled", "metrics_address"] "metrics_address" BothTexts) d d' →
          LoadAlike (fun c c' => ∃ t, c' =
            { c with observability := { c.observability with metricsAddress := t } })
              text text') ∧
        ((∀ c, parse text = .ok c → c.admin.enabled = false) →
          (DifferInField fieldNames "admin" (DifferInField
            ["enabled", "api_key", "bind_address"] "api_key" BothTexts) d d' →
            LoadAlike (fun c c' => ∃ t, c' = { c with admin := { c.admin with apiKey := t } })
              text text') ∧
          (DifferInField fieldNames "admin" (DifferInField
            ["enabled", "api_key", "bind_address"] "bind_address" BothTexts) d d' →
            LoadAlike (fun c c' => ∃ t, c' = { c with admin := { c.admin with bindAddress := t } })
              text text')) := by
  refine ⟨fun bytes text c hbytes hc => ⟨?_, fun hbad => ?_, fun _ => mem_problems_iff,
    pairwise_problems c⟩, fun text text' d d' hd hd' => ⟨?_, ?_, ?_⟩⟩
  · rw [load_of_text hbytes, ofText_eq_ok_iff hc]
  · rw [load_of_text hbytes, ofText_of_parse hc, if_neg (mt problems_eq_nil_iff.mp hbad)]
  · intro i name v w hname hdiffer
    have halike := loadAlike_of_differInRule hd hd' hname hdiffer
    exact ⟨halike, fun c c' hc hc' => (halike.agree c c' hc hc').store⟩
  · exact loadAlike_of_differInMetrics hd hd'
  · have hsymm (name : String) (v w : Toml)
        (h : DifferInField ["enabled", "api_key", "bind_address"] name BothTexts v w) :
        DifferInField ["enabled", "api_key", "bind_address"] name BothTexts w v :=
      h.symm fun _ _ h => BothTexts.symm h
    intro disabled
    refine ⟨fun hdiffer => ?_, fun hdiffer => ?_⟩
    · exact loadAlike_of_differInAdmin (f := fun a t => { a with apiKey := t }) hd hd' disabled
        (fun _ _ => rfl) (hsymm _) (fun _ _ _ => exists_apiKey) hdiffer
    · exact loadAlike_of_differInAdmin (f := fun a t => { a with bindAddress := t }) hd hd' disabled
        (fun _ _ => rfl) (hsymm _) (fun _ _ _ => exists_adminAddress) hdiffer

theorem loads_alike_nan : LoadAlike (AgreeButRule 0 "from" (.string "/") (.float none))
    "[[rules]]\nfrom = \x27/\x27\n" "[[rules]]\nfrom = nan\n" := by
  have hd : Toml.ofText? "[[rules]]\nfrom = \x27/\x27\n" =
      some (.table [("rules", .array [.table [("from", .string "/")]])]) := by
    simp only [Toml.ofText?, String.reduceToList]
    rfl
  have hd' : Toml.ofText? "[[rules]]\nfrom = nan\n" =
      some (.table [("rules", .array [.table [("from", .float none)]])]) := by
    simp only [Toml.ofText?, String.reduceToList]
    rfl
  have hfield : DifferInField RawRule.fieldNames "from"
      (fun a b => a = .string "/" ∧ b = .float none)
      (.table [("from", .string "/")]) (.table [("from", .float none)]) :=
    @DifferInField.table _ _ _ [] [] _ _ ⟨rfl, rfl⟩ List.not_mem_nil
  have hitem := @DifferInItem.array 0 _ [] [] _ _ hfield rfl
  have hdiffer : DifferInRule 0 "from" (.string "/") (.float none) _ _ :=
    @DifferInField.table _ _ _ [] [] _ _ hitem List.not_mem_nil
  exact ((loads_alike.2 _ _ _ _ hd hd').1 0 "from" _ _ (by decide) hdiffer).1

example : ((ofText "[[rules]]\nfrom = nan\nto = [[1]]\n").toOption.map fun c =>
    c.rules.length) = some 1 := by decide +kernel

end Config

end Detour
