import Detour.Admin.Service
import Detour.Proofs.Rule.FirstMatch
import Detour.Proofs.Rule.Normal
import Detour.Proofs.Rule.RawText
import Detour.Proofs.Store.Change

/-!
# Moving rules between services

The entries that a service lists are read as rules again, and compiled to the same rules. Posted one
by one to a service without rules, they make a store that treats every request alike, as far as they
fit into a request (`Admin.export_import`).
-/

namespace Detour

/-! ## What the service shows of a rule -/

namespace Rule

/-- What stands for a rule is texts and a status. -/
theorem plain_of_mem_members_toRaw {r : Rule} (h : r.IsCompiled) {m : String × Json}
    (hm : m ∈ r.toRaw.members) (depth : ℕ) : m.2.Plain depth ∧ m.2 ≠ .null := by
  have htext : ∀ s : String, (Json.string s).Plain depth ∧ Json.string s ≠ .null :=
    fun s => ⟨Json.plain_string depth s, Json.noConfusion⟩
  rcases RawRule.mem_members hm with hv | hv | hv | hv
  · obtain ⟨text, -, htext'⟩ := Option.map_eq_some_iff.mp hv
    rw [← htext']
    exact htext text
  · rw [← Option.some.inj hv]
    exact htext r.pattern.source
  · obtain ⟨n, hn, hnat⟩ := Option.map_eq_some_iff.mp hv
    obtain ⟨raw, hraw⟩ := h
    have hrange := Redirect.isStatus_of_status? ((compile_eq_ok_iff.mp hraw).2.2.2.2.symm.trans hn)
    unfold Redirect.isStatus at hrange
    simp only [Bool.and_eq_true, decide_eq_true_eq] at hrange
    rw [← hnat]
    exact ⟨Json.plain_nat (by unfold JsonText.maxSignificand; omega) depth, Json.noConfusion⟩
  · rw [← Option.some.inj hv]
    exact htext r.target

theorem plain_toRaw {r : Rule} (h : r.IsCompiled) : r.toRaw.Plain :=
  ⟨fun _ hm => (plain_of_mem_members_toRaw h hm _).1,
    fun _ hm => (plain_of_mem_members_toRaw h hm 0).2⟩

end Rule

namespace Admin

theorem ruleView_eq (r : Rule) : ruleView r = r.toRaw.toJson := by
  have hfields : ruleView r = Json.ofMembers
      ([("from", .string r.pattern.source), ("to", .string r.target)] ++
        (r.toRaw.condition.map (("condition", ·))).toList ++
        (r.toRaw.redirect.map (("redirect", ·))).toList) := by
    unfold ruleView Rule.toRaw Condition.toJson?
    cases r.condition.text? <;> cases r.redirect <;> rfl
  rw [hfields, RawRule.toJson_eq]
  refine Json.ofMembers_of_perm ?_ r.toRaw.ascending_members
  refine List.Perm.symm ?_
  show (_ ++ [("from", Json.string r.pattern.source)] ++ _ ++ [("to", Json.string r.target)]).Perm _
  rw [List.append_assoc, List.append_assoc, List.singleton_append]
  refine List.perm_middle.trans (.cons _ ?_)
  rw [← List.append_assoc]
  exact List.perm_append_singleton _ _

/-- An entry is read as the raw rule that stands for its rule. -/
theorem ofText_render_ruleView {r : Rule} (h : r.IsCompiled) :
    RawRule.ofText (ruleView r).render = .ok r.toRaw := by
  rw [ruleView_eq]
  exact RawRule.ofText_render (Rule.plain_toRaw h)

theorem plain_ruleView {r : Rule} (h : r.IsCompiled) (depth : ℕ) :
    (ruleView r).Plain (depth + 1) := by
  rw [ruleView_eq, RawRule.toJson_eq]
  refine ⟨Json.ofMembers_of_perm (.refl _) r.toRaw.ascending_members,
    Json.plainMembers_iff.mpr fun m hm => ?_⟩
  exact (Rule.plain_of_mem_members_toRaw h hm depth).1

/-- The list of the entries is read back from its text. -/
theorem ofText_render_listing {rules : List Rule} (h : ∀ r ∈ rules, r.IsCompiled) :
    Json.ofText (Json.array (rules.map ruleView)).render = .ok (.array (rules.map ruleView)) := by
  have hitems : Json.PlainItems 126 (rules.map ruleView) := by
    refine Json.plainItems_iff.mpr fun v hv => ?_
    obtain ⟨r, hr, rfl⟩ := List.mem_map.mp hv
    exact plain_ruleView (h r hr) 125
  exact Json.ofText_render hitems

/-! ## Requests to the service -/

/-- A request that posts an entry: it holds the key and says that its body is JSON. -/
structure Posts (key : String) (entry : Json) (r : Request) : Prop where
  authorized : isAuthorized key r = true
  method : r.method = "POST"
  path : r.uri.path = "/admin/rules"
  isJson : hasJsonBody r = true
  body : r.body = entry.render

/-- A request for the list of the entries. -/
structure Lists (key : String) (r : Request) : Prop where
  authorized : isAuthorized key r = true
  method : r.method = "GET"
  path : r.uri.path = "/admin/rules"

/-- Is the text of the entry short enough for a request? -/
def fits (entry : Json) : Bool := entry.render.utf8ByteSize ≤ maxBody

/-- The answer to a request and the store after it. -/
def step (key : String) (s : Store) (r : Request) : Response × Store :=
  ((serve key s r).response, (serve key s r).store)

/-- The answer to a rule that was added. -/
def added : Response := .json 201 (Json.ofMembers [("registered", .bool true)])

/-- The answer to a body that is too long. -/
def tooLong : Response := .bare 413

theorem forMethod_of_ne {response : Response} {method : String} (hhead : method ≠ "HEAD")
    (hconnect : method ≠ "CONNECT") : response.forMethod method = response := by
  simp [Response.forMethod, hhead, hconnect]

/-- A request that holds the key, by a method whose answer has a body. -/
theorem step_of_authorized {key : String} {r : Request} (h : isAuthorized key r = true)
    (hhead : r.method ≠ "HEAD") (hconnect : r.method ≠ "CONNECT") (s : Store) :
    step key s r = ((perform s r).response, (perform s r).store) := by
  unfold step serve
  rw [if_pos h]
  dsimp only
  rw [forMethod_of_ne hhead hconnect]

/-- A list of the rules leaves them as they are. -/
theorem step_of_lists {key : String} {r : Request} (h : Lists key r) (s : Store) :
    step key s r = (.json 200 (.array (s.rules.map ruleView)), s) := by
  have htask : task? r = .ok .list := by
    unfold task?; rw [h.path, h.method]; rfl
  rw [step_of_authorized h.authorized (by rw [h.method]; decide) (by rw [h.method]; decide),
    perform, htask]

theorem add_of_compile {raw : RawRule} {rule : Rule} (h : Rule.compile raw = .ok rule) (s : Store) :
    add s raw =
      ⟨added, Logger.silent.allEvents raw.reports, .install (s.rules ++ [rule])⟩ := by
  unfold add
  rw [Store.tryRegister_ok h]
  rfl

/-- A posted entry is read as the raw rule that stands for its rule, if it fits into a request. -/
theorem rawRule?_of_posts {key : String} {rule : Rule} (hrule : rule.IsCompiled) {r : Request}
    (h : Posts key (ruleView rule) r) :
    rawRule? r = if fits (ruleView rule) then .ok rule.toRaw else .error tooLong := by
  unfold rawRule? fits
  rw [h.isJson, h.body, ofText_render_ruleView hrule]
  by_cases hlength : (ruleView rule).render.utf8ByteSize ≤ maxBody
  · rw [if_neg (Nat.not_lt.mpr hlength), decide_eq_true hlength]
    rfl
  · rw [if_pos (Nat.lt_of_not_le hlength), decide_eq_false hlength]
    rfl

/-- A posted entry adds its rule behind the others, if it fits into a request. -/
theorem step_of_posts {key : String} {rule : Rule} (hrule : rule.IsCompiled) {r : Request}
    (h : Posts key (ruleView rule) r) (s : Store) :
    step key s r =
      if fits (ruleView rule) then (added, .install (s.rules ++ [rule])) else (tooLong, s) := by
  have htask : task? r = .ok .add := by
    unfold task?; rw [h.path, h.method]; rfl
  obtain ⟨raw, hraw⟩ := hrule
  have hread := rawRule?_of_posts ⟨raw, hraw⟩ h
  rw [step_of_authorized h.authorized (by rw [h.method]; decide) (by rw [h.method]; decide),
    perform, htask]
  cases hfits : fits (ruleView rule) with
  | true =>
    rw [hfits, if_pos rfl] at hread
    simp only [hread, add_of_compile (Rule.compile_toRaw hraw)]
    rfl
  | false =>
    rw [hfits, if_neg Bool.false_ne_true] at hread
    simp only [hread]
    rfl

/-! ## Posting entries one by one -/

section Posting

variable {key : String} {rules : List Rule} {requests : List Request}

/-- The rules of the posted entries come behind those that were there, as far as the entries fit
into a request. -/
theorem rules_after_posts (hrules : ∀ r ∈ rules, r.IsCompiled)
    (h : List.Forall₂ (Posts key) (rules.map ruleView) requests) (s : Store) :
    (Run.after (step key) s requests).rules =
      s.rules ++ rules.filter fun r => fits (ruleView r) := by
  induction rules generalizing requests s with
  | nil =>
    cases h
    exact (List.append_nil _).symm
  | cons r rules ih =>
    obtain ⟨hr, hrules⟩ := List.forall_mem_cons.mp hrules
    obtain _ | ⟨hpost, hposts⟩ := h
    rw [Run.after_cons, step_of_posts hr hpost, ih hrules hposts, List.filter_cons]
    cases fits (ruleView r) with
    | true =>
      show s.rules ++ [r] ++ _ = _
      rw [List.append_assoc, if_pos rfl]
      rfl
    | false => rfl

/-- Every entry is answered by itself. -/
theorem replies_to_posts (hrules : ∀ r ∈ rules, r.IsCompiled)
    (h : List.Forall₂ (Posts key) (rules.map ruleView) requests) (s : Store) :
    Run.replies (step key) s requests =
      rules.map fun r => if fits (ruleView r) then added else tooLong := by
  induction rules generalizing requests s with
  | nil => cases h; rfl
  | cons r rules ih =>
    obtain ⟨hr, hrules⟩ := List.forall_mem_cons.mp hrules
    obtain _ | ⟨hpost, hposts⟩ := h
    rw [Run.replies_cons, step_of_posts hr hpost, ih hrules hposts, List.map_cons]
    cases fits (ruleView r) <;> rfl

end Posting

theorem isCompiled_of_reachable {raws : List RawRule} {changes : List Change} :
    ∀ r ∈ (Run.after Change.perform (Store.ofRaw raws) changes).rules, r.IsCompiled := by
  intro r hr
  rw [Store.after_ofRaw] at hr
  obtain ⟨raw, -, hraw⟩ := Store.mem_accepted.mp hr
  exact ⟨raw, hraw⟩

/-- **Export and import.** The entry of every rule is read as a raw rule that is compiled to the
same rule. So the entries of any store, posted one by one to a service without rules, are added if
they fit into a request and refused with nothing changed otherwise; and if all of them fit, the two
services list the same entries and treat every request alike. -/
theorem export_import (raws : List RawRule) (changes : List Change) :
    let exported := Run.after Change.perform (Store.ofRaw raws) changes
    (∀ raw r, Rule.compile raw = .ok r →
      ∃ raw', RawRule.ofText (ruleView r).render = .ok raw' ∧ Rule.compile raw' = .ok r) ∧
    (∀ key request, Lists key request →
      step key exported request = (.json 200 (.array (exported.rules.map ruleView)), exported)) ∧
    Json.ofText (Json.array (exported.rules.map ruleView)).render =
      .ok (.array (exported.rules.map ruleView)) ∧
    ∀ key requests, List.Forall₂ (Posts key) (exported.rules.map ruleView) requests →
      let replies := Run.replies (step key) .empty requests
      let imported := Run.after (step key) .empty requests
      replies = exported.rules.map (fun r => if fits (ruleView r) then added else tooLong) ∧
      imported.rules = exported.rules.filter (fun r => fits (ruleView r)) ∧
      ((∀ r ∈ exported.rules, fits (ruleView r) = true) →
        (∀ reply ∈ replies, reply = added) ∧
        (∀ key request, Lists key request →
          (step key imported request).1 = (step key exported request).1) ∧
        ∀ v, verdict imported.rules v = verdict exported.rules v) := by
  intro exported
  have hcompiled : ∀ r ∈ exported.rules, r.IsCompiled := isCompiled_of_reachable
  refine ⟨?_, ?_, ofText_render_listing hcompiled, ?_⟩
  · intro raw r hraw
    exact ⟨r.toRaw, ofText_render_ruleView ⟨raw, hraw⟩, Rule.compile_toRaw hraw⟩
  · exact fun key request h => step_of_lists h exported
  · intro key requests hposts replies imported
    have hreplies := replies_to_posts hcompiled hposts .empty
    have hrules := rules_after_posts hcompiled hposts .empty
    refine ⟨hreplies, hrules, fun hfits => ?_⟩
    have hsame : imported.rules = exported.rules := by
      show (Run.after (step key) .empty requests).rules = _
      rw [hrules, List.filter_eq_self.mpr hfits]
      rfl
    refine ⟨?_, ?_, ?_⟩
    · intro reply hreply
      rw [show replies = _ from hreplies] at hreply
      obtain ⟨r, hr, rfl⟩ := List.mem_map.mp hreply
      exact if_pos (hfits r hr)
    · intro key request h
      rw [step_of_lists h, step_of_lists h, hsame]
    · intro v
      rw [hsame]

/-! ## An entry that does not fit -/

/-- The request that posts an entry under the key `k`. -/
def post (entry : Json) : Request where
  method := "POST"
  uri := .origin ⟨"/admin/rules", none⟩
  headers := [("Authorization", "Bearer k"), ("Content-Type", "application/json")]
  body := entry.render
  reroutedFrom := none

theorem headerText?_post (entry : Json) :
    (post entry).headerText? "authorization" = some "Bearer k" ∧
      (post entry).headerText? "content-type" = some "application/json" := by
  unfold Request.headerText? Request.header? post
  dsimp only
  decide +kernel

theorem posts_post (entry : Json) : Posts "k" entry (post entry) where
  authorized := by
    unfold isAuthorized; rw [(headerText?_post entry).1]; decide +kernel
  method := rfl
  path := rfl
  isJson := by
    unfold hasJsonBody; rw [(headerText?_post entry).2]; decide +kernel
  body := rfl

theorem length_le_utf8ByteSize_ofList (cs : List Char) :
    cs.length ≤ (String.ofList cs).utf8ByteSize := by
  induction cs with
  | nil => exact Nat.zero_le _
  | cons c cs ih =>
    have hc := c.utf8Size_pos
    rw [String.ofList_cons, String.utf8ByteSize_append, String.utf8ByteSize_singleton,
      List.length_cons]
    omega

/-- The text of an entry is longer than that of its condition. -/
theorem length_lt_render_ruleView {r : Rule} {text : String} (h : r.condition.text? = some text) :
    text.toList.length < (ruleView r).render.utf8ByteSize := by
  obtain ⟨ms, hms⟩ : ∃ ms, r.toRaw.members = ("condition", .string text) :: ms := by
    unfold RawRule.members Rule.toRaw Condition.toJson?
    rw [h]
    exact ⟨_, rfl⟩
  rw [ruleView_eq, RawRule.toJson_eq, hms]
  calc text.toList.length
      < (JsonText.renderString text).length := JsonText.length_lt_renderString text
    _ < (JsonText.renderMembers (("condition", .string text) :: ms)).length :=
        JsonText.length_renderValue_lt_renderMembers "condition" (.string text) ms
    _ < (JsonText.renderValue (.object (("condition", .string text) :: ms))).length :=
        Nat.lt_succ_self _
    _ ≤ _ := length_le_utf8ByteSize_ofList _

/-- A rule with a condition of `n` letters. -/
def ruleOfLength (n : ℕ) : RawRule :=
  ⟨some (.string (String.ofList (List.replicate n 'a'))), some (.string "a"), some (.string "b"),
    none⟩

theorem exists_compile_ruleOfLength (n : ℕ) : ∃ r, Rule.compile (ruleOfLength (n + 1)) = .ok r ∧
    r.condition.text? = some (String.ofList (List.replicate (n + 1) 'a')) := by
  have hok : ((Pattern.compile "a").toOption.any fun _ => true) = true := by decide +kernel
  obtain ⟨p, hpattern, -⟩ := exists_ok_of_any hok
  have hsource := Pattern.source_of_compile hpattern
  have hletters : (String.ofList (List.replicate (n + 1) 'a')).isEmpty = false := by
    simp [List.replicate_succ]
  refine ⟨⟨Rule.conditionOf (ruleOfLength (n + 1)).condition, p, "b", none⟩, ?_,
    Condition.text?_parse hletters⟩
  refine Rule.compile_eq_ok_iff.mpr ⟨?_, rfl, ?_, rfl, rfl⟩
  · show some "a" = some p.source
    rw [hsource]
  · show Pattern.compile p.source = .ok p
    rw [hsource, hpattern]

/-- Not every entry of a service is added when it is posted to another one. -/
theorem not_every_entry_added :
    ¬ ∀ (raws : List RawRule) (key : String) (requests : List Request),
      List.Forall₂ (Posts key) ((Store.ofRaw raws).rules.map ruleView) requests →
      ∀ reply ∈ Run.replies (step key) .empty requests, reply.status = 201 := by
  intro hall
  obtain ⟨r, hr, htext⟩ := exists_compile_ruleOfLength maxBody
  have hrules : (Store.ofRaw [ruleOfLength (maxBody + 1)]).rules = [r] := by
    rw [Store.rules_ofRaw]
    exact Store.accepted_concat_ok hr []
  have hfits : fits (ruleView r) = false := by
    have hlength := length_lt_render_ruleView htext
    rw [String.toList_ofList, List.length_replicate] at hlength
    exact decide_eq_false (Nat.not_le.mpr (Nat.lt_of_succ_lt hlength))
  have hreplies : Run.replies (step "k") .empty [post (ruleView r)] = [tooLong] := by
    rw [Run.replies_cons, step_of_posts ⟨_, hr⟩ (posts_post _), hfits]
    rfl
  have hstatus := hall [ruleOfLength (maxBody + 1)] "k" [post (ruleView r)]
    (by rw [hrules]; exact .cons (posts_post _) .nil) tooLong
    (by rw [hreplies]; exact List.mem_singleton_self _)
  cases hstatus

end Admin

end Detour
