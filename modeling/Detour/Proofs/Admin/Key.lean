import Detour.Admin.Service
import Detour.Proofs.Rule.Attribute
import Detour.Proofs.Store.Change

/-!
# The key of the service

Who does not hold the key learns nothing of the rules and changes nothing: the answer is the same
for every store, the store stays as it is, and requests without the key may be left out of any run
(`Admin.closed_without_key`).
-/

namespace Detour.Admin

/-! ## Holding the key -/

/-- The first value of the request's authorization is the key behind the word `Bearer`, and can be
read as text. No request holds the empty key. -/
structure HoldsKey (key : String) (r : Request) : Prop where
  key_ne_empty : key ≠ ""
  isFirstValue : IsFirstValue r.headers "authorization" ("Bearer " ++ key)
  isPlainText : isPlainText ("Bearer " ++ key) = true

theorem headerText?_eq_some_iff {r : Request} {name value : String} (hname : isToken name = true) :
    r.headerText? name = some value ↔
      IsFirstValue r.headers name value ∧ isPlainText value = true := by
  unfold Request.headerText? Request.header?
  rw [if_pos hname, Option.filter_eq_some_iff, isFirstValue_iff]

theorem isAuthorized_iff {key : String} {r : Request} :
    isAuthorized key r = true ↔ HoldsKey key r := by
  have hname : isToken "authorization" = true := by decide
  unfold isAuthorized
  rw [Bool.and_eq_true, decide_eq_true_eq, headerText?_eq_some_iff hname]
  constructor
  · rintro ⟨hkey, hfirst, hplain⟩
    exact ⟨by simpa using hkey, hfirst, hplain⟩
  · rintro ⟨hkey, hfirst, hplain⟩
    exact ⟨by simpa using hkey, hfirst, hplain⟩

instance (key : String) (r : Request) : Decidable (HoldsKey key r) :=
  decidable_of_iff _ isAuthorized_iff

/-! ## One request -/

theorem serve_of_holdsKey {key : String} {r : Request} (h : HoldsKey key r) (s : Store) :
    serve key s r = { perform s r with response := (perform s r).response.forMethod r.method } := by
  unfold serve
  rw [if_pos (isAuthorized_iff.mpr h)]

theorem serve_of_not_holdsKey {key : String} {r : Request} (h : ¬ HoldsKey key r) (s : Store) :
    serve key s r = ⟨refusal r, [rejection], s⟩ := by
  unfold serve
  rw [if_neg (mt isAuthorized_iff.mp h)]

theorem status_refusal (r : Request) : (refusal r).status = 401 := by
  unfold refusal
  split <;> rfl

@[simp] theorem status_forMethod (response : Response) (method : String) :
    (response.forMethod method).status = response.status := by
  unfold Response.forMethod
  split <;> rfl

/-- What has no task is told so. -/
theorem status_of_task?_error {r : Request} {response : Response}
    (h : task? r = .error response) : response.status = 404 ∨ response.status = 405 := by
  unfold task? at h
  repeat' split at h
  all_goals cases h
  all_goals first | exact .inl rfl | exact .inr rfl

/-- A body without a rule is refused by the fault of the sender. -/
theorem status_of_rawRule?_error {r : Request} {response : Response}
    (h : rawRule? r = .error response) : 400 ≤ response.status ∧ response.status < 500 ∧
      response.status ≠ 401 := by
  unfold rawRule? at h
  repeat' split at h
  all_goals cases h
  all_goals simp [Response.bare]

theorem status_perform_ne (s : Store) (r : Request) : (perform s r).response.status ≠ 401 := by
  unfold perform
  cases htask : task? r with
  | error response =>
    rcases status_of_task?_error htask with h | h <;> simp [h]
  | ok t =>
    cases t with
    | add =>
      cases hraw : rawRule? r with
      | error response => exact (status_of_rawRule?_error hraw).2.2
      | ok raw =>
        show (add s raw).response.status ≠ 401
        unfold add
        cases s.tryRegister raw <;> simp [Response.json]
    | _ => simp [Response.json, Response.bare]

/-! ## Runs -/

/-- What happens to a service. -/
inductive Input where
  /-- Its store is changed by others. -/
  | change (c : Change)
  | request (r : Request)

/-- What is answered. -/
inductive Reply where
  | changed (reply : ChangeReply)
  | answered (response : Response) (events : List Event)

/-- Takes one input. -/
def take (key : String) (s : Store) : Input → Reply × Store
  | .change c => (.changed (c.perform s).1, (c.perform s).2)
  | .request r =>
    let served := serve key s r
    (.answered served.response served.events, served.store)

/-- Everything but the requests without the key. -/
def Input.isAdmitted (key : String) : Input → Bool
  | change _ => true
  | request r => HoldsKey key r

theorem take_of_not_isAdmitted {key : String} {i : Input} (h : i.isAdmitted key = false)
    (s : Store) : (take key s i).2 = s := by
  cases i with
  | change c => cases h
  | request r =>
    have hkey : ¬ HoldsKey key r := by simpa [Input.isAdmitted] using h
    simp [take, serve_of_not_holdsKey hkey]

/-- **The key.** A request without the key is answered 401, by the same answer for every store; the
store stays as it is, and the one event is the rejection. A request with the key is answered by the
service and never 401. So of whatever happens to a service the requests without the key may be left
out: the store is the same in the end, and so are all other answers. -/
theorem closed_without_key (key : String) :
    (∀ (s : Store) (r : Request), ¬ HoldsKey key r →
      (serve key s r).response.status = 401 ∧
      (∀ other : Store, (serve key other r).response = (serve key s r).response) ∧
      (serve key s r).store = s ∧ (serve key s r).events = [rejection]) ∧
    (∀ (s : Store) (r : Request), HoldsKey key r →
      serve key s r = { perform s r with response := (perform s r).response.forMethod r.method } ∧
      (serve key s r).response.status ≠ 401) ∧
    ∀ (s : Store) (inputs : List Input),
      Run.after (take key) s inputs =
        Run.after (take key) s (inputs.filter (Input.isAdmitted key)) ∧
      Run.repliesTo (take key) (Input.isAdmitted key) s inputs =
        Run.replies (take key) s (inputs.filter (Input.isAdmitted key)) := by
  refine ⟨?_, ?_, ?_⟩
  · intro s r h
    have hserve := serve_of_not_holdsKey h
    rw [hserve s]
    exact ⟨status_refusal r, fun other => by rw [hserve other], rfl, rfl⟩
  · intro s r h
    refine ⟨serve_of_holdsKey h s, ?_⟩
    rw [serve_of_holdsKey h]
    simpa using status_perform_ne s r
  · -- a request without the key leaves every store as it is, so a run does not see it
    intro s inputs
    have hidle : ∀ s i, Input.isAdmitted key i = false → (take key s i).2 = s :=
      fun s _ h => take_of_not_isAdmitted h s
    exact ⟨(Run.after_filter _ hidle s inputs).symm, (Run.replies_filter _ hidle s inputs).symm⟩

end Detour.Admin
