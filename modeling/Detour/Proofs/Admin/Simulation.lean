import Mathlib.Data.List.Forall2
import Detour.Proofs.Admin.Export
import Detour.Proofs.Admin.Key

/-!
# The service as a store

A service keeps its rules as a store does: a request that submits a rule registers it, one that
clears the rules resets the store, and no other request changes anything. So after any run the
answers are those of the rules that were accepted since the last change of all rules, whether they
came by requests or by direct changes (`Admin.service_simulates_store`).
-/

namespace Detour.Admin

/-! ## Submitting a rule -/

/-- The request submits the raw rule: it says that its body is JSON, and the body is not too long
and is read as that rule. -/
structure Submits (r : Request) (raw : RawRule) : Prop where
  isJson : hasJsonBody r = true
  fits : r.body.utf8ByteSize ≤ maxBody
  body : RawRule.ofText r.body = .ok raw

theorem rawRule?_eq_ok_iff {r : Request} {raw : RawRule} :
    rawRule? r = .ok raw ↔ Submits r raw := by
  unfold rawRule?
  by_cases hjson : hasJsonBody r = true
  · by_cases hfits : r.body.utf8ByteSize ≤ maxBody
    · rw [if_neg (by simp [hjson]), if_neg (Nat.not_lt.mpr hfits)]
      constructor
      · intro h
        cases hbody : RawRule.ofText r.body with
        | ok raw' =>
          rw [hbody] at h
          cases h
          exact ⟨hjson, hfits, hbody⟩
        | error e =>
          rw [hbody] at h
          cases e <;> cases h
      · rintro ⟨-, -, hbody⟩
        rw [hbody]
    · rw [if_neg (by simp [hjson]), if_pos (Nat.not_le.mp hfits)]
      exact ⟨fun h => (by cases h), fun h => absurd h.fits hfits⟩
  · rw [if_pos (by simpa using hjson)]
    exact ⟨fun h => (by cases h), fun h => absurd h.isJson hjson⟩

/-! ## Tasks -/

/-- Path and methods by which a task is asked for. -/
inductive Asks (r : Request) : Task → Prop
  | status (path : r.uri.path = "/admin/status") (method : r.method = "GET" ∨ r.method = "HEAD") :
    Asks r .status
  | list (path : r.uri.path = "/admin/rules") (method : r.method = "GET" ∨ r.method = "HEAD") :
    Asks r .list
  | add (path : r.uri.path = "/admin/rules") (method : r.method = "POST") : Asks r .add
  | clear (path : r.uri.path = "/admin/rules") (method : r.method = "DELETE") : Asks r .clear

theorem task?_eq_ok_iff {r : Request} {t : Task} : task? r = .ok t ↔ Asks r t := by
  constructor
  · intro h
    unfold task? at h
    repeat' split at h
    all_goals cases h
    · exact .status ‹_› (.inl ‹_›)
    · exact .status ‹_› (.inr ‹_›)
    · exact .list ‹_› (.inl ‹_›)
    · exact .list ‹_› (.inr ‹_›)
    · exact .add ‹_› ‹_›
    · exact .clear ‹_› ‹_›
  · intro h
    unfold task?
    cases h with
    | status hpath hmethod => rcases hmethod with hmethod | hmethod <;> simp [hpath, hmethod]
    | list hpath hmethod => rcases hmethod with hmethod | hmethod <;> simp [hpath, hmethod]
    | add hpath hmethod => simp [hpath, hmethod]
    | clear hpath hmethod => simp [hpath, hmethod]

/-- A request that neither submits a rule nor clears the rules changes nothing. -/
theorem perform_of_reading {r : Request} (hadd : task? r ≠ .ok .add)
    (hclear : task? r ≠ .ok .clear) (s : Store) :
    (perform s r).store = s ∧ (perform s r).events = [] := by
  unfold perform
  cases htask : task? r with
  | error response => exact ⟨rfl, rfl⟩
  | ok t =>
    cases t with
    | status => exact ⟨rfl, rfl⟩
    | list => exact ⟨rfl, rfl⟩
    | add => exact absurd htask hadd
    | clear => exact absurd htask hclear

theorem perform_of_submits {r : Request} {raw : RawRule} (hadd : task? r = .ok .add)
    (h : Submits r raw) (s : Store) : perform s r = add s raw := by
  unfold perform
  rw [hadd]
  dsimp only
  rw [rawRule?_eq_ok_iff.mpr h]

theorem perform_of_not_submits {r : Request} (hadd : task? r = .ok .add)
    (h : ∀ raw, ¬ Submits r raw) (s : Store) :
    ∃ response, rawRule? r = .error response ∧ perform s r = ⟨response, [], s⟩ := by
  cases hraw : rawRule? r with
  | ok raw => exact absurd (rawRule?_eq_ok_iff.mp hraw) (h raw)
  | error response =>
    refine ⟨response, rfl, ?_⟩
    unfold perform
    rw [hadd]
    dsimp only
    rw [hraw]

/-! ## Answers -/

/-- The entry shows the pattern, the target, the condition and the redirect of the rule; what the
rule does not have is left out. -/
structure IsEntry (rule : Rule) (entry : Json) : Prop where
  source : entry.member? "from" = some (.string rule.pattern.source)
  target : entry.member? "to" = some (.string rule.target)
  condition : entry.member? "condition" = rule.condition.text?.map .string
  redirect : entry.member? "redirect" = rule.redirect.map .nat

theorem isEntry_ruleView (rule : Rule) : IsEntry rule (ruleView rule) := by
  obtain ⟨hcondition, hsource, htarget, hredirect⟩ := rule.toRaw.member?_members
  rw [ruleView_eq, RawRule.toJson_eq]
  exact ⟨hsource, htarget, hcondition, hredirect⟩

theorem member?_rules_statusView (s : Store) :
    (statusView s).member? "rules" = some (.nat s.rules.length) := by
  have hstatus : "status" < "version" := by decide
  have hrules : "rules" < "status" := by decide
  unfold statusView Json.ofMembers
  simp only [List.foldl_cons, List.foldl_nil, Json.insertMember, if_pos hstatus, if_pos hrules]
  rfl

/-- What a service whose store is `s` makes of a request. -/
structure Answered (s : Store) (r : Request) (out : Served) : Prop where
  /-- The list has an entry for each rule, in the order of the rules. -/
  list : r.uri.path = "/admin/rules" → r.method = "GET" →
    ∃ entries, out.response = .json 200 (.array entries) ∧ List.Forall₂ IsEntry s.rules entries
  status : r.uri.path = "/admin/status" → r.method = "GET" →
    ∃ view, out.response = .json 200 view ∧ view.member? "rules" = some (.nat s.rules.length)
  /-- A submitted rule that is accepted goes behind all others. -/
  added : r.uri.path = "/admin/rules" → r.method = "POST" →
    ∀ raw rule, Submits r raw → Rule.compile raw = .ok rule →
      out = ⟨.json 201 (Json.ofMembers [("registered", .bool true)]),
        Logger.silent.allEvents raw.reports, .install (s.rules ++ [rule])⟩
  /-- The answer to one that is not tells why, and nothing changes. -/
  rejected : r.uri.path = "/admin/rules" → r.method = "POST" →
    ∀ raw e, Submits r raw → Rule.compile raw = .error e →
      out = ⟨.json 422 (Json.ofMembers [("registered", .bool false), ("error", .string e.message)]),
        Logger.silent.allEvents raw.reports, s⟩
  /-- A body without a rule is the sender's fault; nothing changes and nothing is reported. -/
  refused : r.uri.path = "/admin/rules" → r.method = "POST" → (∀ raw, ¬ Submits r raw) →
    400 ≤ out.response.status ∧ out.response.status < 500 ∧ out.store = s ∧ out.events = []
  cleared : r.uri.path = "/admin/rules" → r.method = "DELETE" →
    out.response.status = 204 ∧ out.store = ⟨[], some 0⟩
  /-- All other requests change nothing, and nothing is reported. -/
  reading : ¬ (r.uri.path = "/admin/rules" ∧ (r.method = "POST" ∨ r.method = "DELETE")) →
    out.store = s ∧ out.events = []

/-- A request that holds the key, by a method whose answer has a body. -/
theorem serve_of_method {key : String} {r : Request} (hkey : HoldsKey key r)
    (hmethod : r.method ∈ ["GET", "POST", "DELETE"]) (s : Store) :
    serve key s r = perform s r := by
  have hne : ∀ method ∈ ["GET", "POST", "DELETE"], method ≠ "HEAD" ∧ method ≠ "CONNECT" := by
    decide
  obtain ⟨hhead, hconnect⟩ := hne r.method hmethod
  rw [serve_of_holdsKey hkey, forMethod_of_ne hhead hconnect]

theorem answered_serve {key : String} {r : Request} (hkey : HoldsKey key r) (s : Store) :
    Answered s r (serve key s r) where
  list hpath hmethod := by
    have htask : task? r = .ok .list := task?_eq_ok_iff.mpr (.list hpath (.inl hmethod))
    rw [serve_of_method hkey (by simp [hmethod]), perform, htask]
    refine ⟨_, rfl, ?_⟩
    rw [List.forall₂_map_right_iff]
    exact List.forall₂_same.mpr fun rule _ => isEntry_ruleView rule
  status hpath hmethod := by
    have htask : task? r = .ok .status := task?_eq_ok_iff.mpr (.status hpath (.inl hmethod))
    rw [serve_of_method hkey (by simp [hmethod]), perform, htask]
    exact ⟨_, rfl, member?_rules_statusView s⟩
  added hpath hmethod raw rule hsubmits hrule := by
    rw [serve_of_method hkey (by simp [hmethod]),
      perform_of_submits (task?_eq_ok_iff.mpr (.add hpath hmethod)) hsubmits, add_of_compile hrule]
    rfl
  rejected hpath hmethod raw e hsubmits he := by
    rw [serve_of_method hkey (by simp [hmethod]),
      perform_of_submits (task?_eq_ok_iff.mpr (.add hpath hmethod)) hsubmits, add,
      Store.tryRegister_error he]
  refused hpath hmethod hsubmits := by
    obtain ⟨response, hraw, hperform⟩ :=
      perform_of_not_submits (task?_eq_ok_iff.mpr (.add hpath hmethod)) hsubmits s
    obtain ⟨hmin, hmax, -⟩ := status_of_rawRule?_error hraw
    rw [serve_of_method hkey (by simp [hmethod]), hperform]
    exact ⟨hmin, hmax, rfl, rfl⟩
  cleared hpath hmethod := by
    rw [serve_of_method hkey (by simp [hmethod]), perform,
      task?_eq_ok_iff.mpr (.clear hpath hmethod)]
    exact ⟨rfl, rfl⟩
  reading hnot := by
    have hadd : task? r ≠ .ok .add := by
      rw [Ne, task?_eq_ok_iff]
      rintro (_ | _ | ⟨hpath, hmethod⟩)
      exact hnot ⟨hpath, .inl hmethod⟩
    have hclear : task? r ≠ .ok .clear := by
      rw [Ne, task?_eq_ok_iff]
      rintro (_ | _ | _ | ⟨hpath, hmethod⟩)
      exact hnot ⟨hpath, .inr hmethod⟩
    rw [serve_of_holdsKey hkey]
    exact perform_of_reading hadd hclear s

/-! ## Changes -/

/-- The change that a request with the key makes, if it makes one. -/
def change? (r : Request) : Option Change :=
  if r.uri.path = "/admin/rules" then
    if r.method = "POST" then (rawRule? r).toOption.map .tryRegister
    else if r.method = "DELETE" then some .reset
    else none
  else none

theorem change?_of_add {r : Request} (h : task? r = .ok .add) :
    change? r = (rawRule? r).toOption.map .tryRegister := by
  cases task?_eq_ok_iff.mp h with
  | add hpath hmethod => simp [change?, hpath, hmethod]

theorem change?_of_clear {r : Request} (h : task? r = .ok .clear) : change? r = some .reset := by
  cases task?_eq_ok_iff.mp h with
  | clear hpath hmethod => simp [change?, hpath, hmethod]

theorem change?_of_reading {r : Request} (hadd : task? r ≠ .ok .add)
    (hclear : task? r ≠ .ok .clear) : change? r = none := by
  rw [Ne, task?_eq_ok_iff] at hadd hclear
  unfold change?
  split_ifs with hpath hpost hdelete
  · exact absurd (.add hpath hpost) hadd
  · exact absurd (.clear hpath hdelete) hclear
  · rfl
  · rfl

theorem store_add (s : Store) (raw : RawRule) :
    (add s raw).store = ((Change.tryRegister raw).perform s).2 := by
  unfold add
  cases h : s.tryRegister raw <;> simp [Change.perform, h]

/-- A request with the key makes its change and no other. -/
theorem store_perform (s : Store) (r : Request) :
    (perform s r).store = (change? r).elim s fun c => (c.perform s).2 := by
  by_cases hadd : task? r = .ok .add
  · rw [change?_of_add hadd, perform, hadd]
    dsimp only
    cases rawRule? r with
    | ok raw => exact store_add s raw
    | error response => rfl
  · -- all that is left but the removal of the rules only reads the store
    by_cases hclear : task? r = .ok .clear
    · rw [change?_of_clear hclear, perform, hclear]
      rfl
    · rw [change?_of_reading hadd hclear]
      exact (perform_of_reading hadd hclear s).1

/-! ## Runs -/

/-- The change that an input makes to the store, if it makes one. -/
def Input.change? (key : String) : Input → Option Change
  | change c => some c
  | request r => if HoldsKey key r then Admin.change? r else none

theorem Input.change?_request {key : String} {r : Request} (h : HoldsKey key r) :
    (request r).change? key = Admin.change? r := if_pos h

/-- The changes that some inputs make. -/
def changes (key : String) (inputs : List Input) : List Change :=
  inputs.filterMap (Input.change? key)

theorem store_take (key : String) (s : Store) (i : Input) :
    (take key s i).2 = (i.change? key).elim s fun c => (c.perform s).2 := by
  cases i with
  | change c => rfl
  | request r =>
    show (serve key s r).store = _
    by_cases hkey : HoldsKey key r
    · rw [Input.change?_request hkey, serve_of_holdsKey hkey]
      exact store_perform s r
    · simp [Input.change?, hkey, serve_of_not_holdsKey hkey]

/-- The store of a service is one that only the changes went to. -/
theorem after_take (key : String) (s : Store) (inputs : List Input) :
    Run.after (take key) s inputs = Run.after Change.perform s (changes key inputs) :=
  Run.view_after (take key) Change.perform id (Input.change? key) (store_take key) s inputs

theorem isPlainText_bearer (key : String) :
    isPlainText ("Bearer " ++ key) = isPlainText key := by
  have hbearer : isPlainText "Bearer " = true := by decide
  unfold isPlainText at hbearer ⊢
  rw [String.toList_append, List.all_append, hbearer, Bool.true_and]

theorem holdsKey_of_isFirstValue {key : String} (hkey : key ≠ "") (hplain : isPlainText key = true)
    {r : Request} (h : IsFirstValue r.headers "authorization" ("Bearer " ++ key)) :
    HoldsKey key r where
  key_ne_empty := hkey
  isFirstValue := h
  isPlainText := (isPlainText_bearer key).trans hplain

/-- **The service as a store.** After any requests and direct changes, the rules are those accepted
since the last change of all rules, whether they came by a request or directly. A request with the
key is then answered as that store demands: the rules are listed, their number is told, a submitted
rule goes behind all others or is refused with nothing changed, all rules are removed, and nothing
else changes anything. -/
theorem service_simulates_store {key : String} (hkey : key ≠ "") (hplain : isPlainText key = true)
    (raws : List RawRule) (before : List Input) :
    let s := Run.after (take key) (Store.ofRaw raws) before
    s = Run.after Change.perform (Store.ofRaw raws) (changes key before) ∧
    s.rules = Store.accepted (givenSince raws (changes key before)) ∧
    ∀ (r : Request) (later : List Input),
      IsFirstValue r.headers "authorization" ("Bearer " ++ key) →
      ∃ served : Served, Answered s r served ∧
        (Run.replies (take key) (Store.ofRaw raws)
          (before ++ .request r :: later))[before.length]? =
            some (.answered served.response served.events) ∧
        Run.after (take key) (Store.ofRaw raws) (before ++ [.request r]) = served.store := by
  intro s
  have hafter : s = Run.after Change.perform (Store.ofRaw raws) (changes key before) :=
    after_take key _ before
  refine ⟨hafter, ?_, ?_⟩
  · rw [hafter, Store.after_ofRaw]
  · intro r later hfirst
    have hholds : HoldsKey key r := holdsKey_of_isFirstValue hkey hplain hfirst
    refine ⟨serve key s r, answered_serve hholds s, ?_, ?_⟩
    · rw [Run.getElem?_replies]
      rfl
    · rw [Run.after_concat]
      rfl

/-! ## A posted rule is counted -/

/-- The request that asks under the key `k` for the status. -/
def askStatus : Request where
  method := "GET"
  uri := .origin ⟨"/admin/status", none⟩
  headers := [("Authorization", "Bearer k")]
  body := ""
  reroutedFrom := none

/-- The rule that is posted. -/
abbrev postedRule : RawRule := ruleOfLength 1

theorem change?_post : (Input.request (post postedRule.toJson)).change? "k" =
    some (.tryRegister postedRule) := by
  have hsubmits : Submits (post postedRule.toJson) postedRule := by
    refine ⟨(posts_post _).isJson, by decide +kernel, RawRule.ofText_render ⟨?_, ?_⟩⟩
    all_goals simp [RawRule.members, ruleOfLength, Json.plain_string]
  have hadd : task? (post postedRule.toJson) = .ok .add := task?_eq_ok_iff.mpr (.add rfl rfl)
  have hkey : HoldsKey "k" (post postedRule.toJson) := isAuthorized_iff.mp (posts_post _).authorized
  rw [Input.change?_request hkey, change?_of_add hadd, rawRule?_eq_ok_iff.mpr hsubmits]
  rfl

/-- A rule that is posted after all others were removed is the only one. -/
theorem status_of_posted_rule :
    "k" ≠ "" ∧ isPlainText "k" = true ∧
    IsFirstValue askStatus.headers "authorization" ("Bearer " ++ "k") ∧
    ∃ view, view.member? "rules" = some (.nat 1) ∧
      (Run.replies (take "k") (.ofRaw []) [.change (.register postedRule), .change .reset,
        .request (post postedRule.toJson), .request askStatus])[3]? =
          some (.answered (.json 200 view) []) := by
  have hfirst : IsFirstValue askStatus.headers "authorization" ("Bearer " ++ "k") :=
    ⟨[], "Authorization", [], rfl, by decide +kernel, List.forall_mem_nil _⟩
  have hkey : "k" ≠ "" := by decide
  have hplain : isPlainText "k" = true := by decide
  obtain ⟨-, hrules, hanswered⟩ := service_simulates_store hkey hplain []
    [.change (.register postedRule), .change .reset, .request (post postedRule.toJson)]
  obtain ⟨served, hserved, hreply, -⟩ := hanswered askStatus [] hfirst
  obtain ⟨view, hview, hcount⟩ := hserved.status rfl rfl
  obtain ⟨-, hevents⟩ := hserved.reading (by decide)
  obtain ⟨rule, hrule, -⟩ := exists_compile_ruleOfLength 0
  have hchanges : changes "k" [.change (.register postedRule), .change .reset,
      .request (post postedRule.toJson)] =
        [.register postedRule, .reset, .tryRegister postedRule] := by
    unfold changes
    rw [List.filterMap_cons, List.filterMap_cons, List.filterMap_cons, change?_post]
    rfl
  rw [hchanges] at hrules
  have hone := hrules.trans (Store.accepted_concat_ok hrule [])
  rw [hone] at hcount
  rw [hview, hevents] at hreply
  exact ⟨hkey, hplain, hfirst, view, hcount, hreply⟩

end Detour.Admin
