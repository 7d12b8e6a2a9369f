import Detour.Http.Server
import Detour.Proofs.Http.Parts

/-!
# Rules before a service

A service that stands behind rules is called once or not at all: with the request as it came, or
with the request under another address, or the request is answered by a redirect. Which of these
happens is a matter of what the rules make of the request and of where the target may stand
(`call_acts_once`).
-/

namespace Detour

/-! ## Services -/

/-- What answers requests. What else it may do, and how it may fail, is told by `m`. -/
abbrev Service (m : Type → Type) := Request → m Response

/-- What comes of a request: its answer, and the events before it. -/
structure Called (m : Type → Type) where
  answer : m Response
  events : List Event

/-- Calls a service that stands behind rules. -/
def Service.call {m : Type → Type} [Pure m] (inner : Service m) (rules : List Rule)
    (logger : Logger) (r : Request) : Called m :=
  let (action, notice) := r.resolve (dispatch rules r.view)
  { answer := match action with
      | .answer response => pure response
      | .forward r => inner r
    events := logger.allEvents (matchReports rules r.view) ++ notice.toList.map Notice.event }

/-- The service behind the rules of a server is its handler. -/
theorem Server.serve_eq_call (s : Server) (r : Request) :
    let handler : Service Id := s.handler.respond
    (s.serve r).response = (handler.call s.store.rules s.logger r).answer ∧
      (s.serve r).events = (handler.call s.store.rules s.logger r).events := ⟨rfl, rfl⟩

section Actions

variable (rules : List Rule) (logger : Logger) (r : Request)

/-- To call any service behind the rules comes to one call of the service, with the request
`r'`. -/
def Forwards (r' : Request) : Prop :=
  ∀ (m : Type → Type) [Pure m] (inner : Service m), (inner.call rules logger r).answer = inner r'

/-- No service behind the rules is called, and the call does not fail: its answer is the given
one. -/
def Answers (response : Response) : Prop :=
  ∀ (m : Type → Type) [Pure m] (inner : Service m),
    (inner.call rules logger r).answer = pure response

/-- How many errors are reported. -/
def errors (events : List Event) : ℕ := events.countP fun e => e.level = .error

/-! ## What rules make of a request -/

/-- The request is redirected, and the location may stand in a header. -/
structure Redirects (status : ℕ) (location : String) : Prop where
  dispatch : dispatch rules r.view = .redirect status location
  legal : ∀ b ∈ location.toUTF8.data, IsFieldByte b

/-- The request goes on under an address whose path and query are those of the target. -/
def Reroutes (uri : Uri) : Prop :=
  ∃ text target, dispatch rules r.view = .reroute text ∧ PathAndQuery.parse? text = some target ∧
    { r.uri.parts with target := some target }.toUri? = some uri

/-- The request is left as it is: no rule applies to it, or the target may not stand where the rule
wants it. -/
structure Stays : Prop where
  not_redirects : ∀ status location, ¬ Redirects rules r status location
  not_reroutes : ∀ uri, ¬ Reroutes rules r uri

variable {rules logger r}

theorem forwards_iff {r' : Request} :
    Forwards rules logger r r' ↔ (r.resolve (dispatch rules r.view)).1 = .forward r' := by
  constructor
  · intro h
    -- a service that fails with what it receives tells the requests apart
    have hprobe := h (Except Request) .error
    unfold Service.call at hprobe
    cases haction : (r.resolve (dispatch rules r.view)).1 with
    | answer response => simp only [haction] at hprobe; cases hprobe
    | forward r'' => simp only [haction] at hprobe; cases hprobe; rfl
  · intro h m _ inner
    unfold Service.call
    simp only [h]

theorem answers_iff {response : Response} :
    Answers rules logger r response ↔
      (r.resolve (dispatch rules r.view)).1 = .answer response := by
  constructor
  · intro h
    have hprobe := h (Except Request) .error
    unfold Service.call at hprobe
    cases haction : (r.resolve (dispatch rules r.view)).1 with
    | answer response' => simp only [haction] at hprobe; cases hprobe; rfl
    | forward r' => simp only [haction] at hprobe; cases hprobe
  · intro h m _ inner
    unfold Service.call
    simp only [h]

/-! ## One case after the other -/

theorem rerouted?_eq_some_iff {text : String} {r' : Request} :
    r.rerouted? text = some r' ↔
      ∃ target uri, PathAndQuery.parse? text = some target ∧
        { r.uri.parts with target := some target }.toUri? = some uri ∧
        r' = { r with uri := uri, reroutedFrom := some r.uri } := by
  unfold Request.rerouted?
  simp only [Uri.withTarget?_eq, Option.bind_eq_bind, Option.bind_eq_some_iff, Option.pure_def,
    Option.some.injEq]
  constructor
  · rintro ⟨target, htarget, uri, huri, rfl⟩
    exact ⟨target, uri, htarget, huri, rfl⟩
  · rintro ⟨target, uri, htarget, huri, rfl⟩
    exact ⟨target, htarget, uri, huri, rfl⟩

theorem resolve_of_redirects {status : ℕ} {location : String}
    (h : Redirects rules r status location) : r.resolve (dispatch rules r.view) =
      (.answer ⟨status, [("location", location)], ""⟩,
        some (.redirecting r.uri location status)) := by
  rw [h.dispatch, Request.resolve, if_pos (isFieldValue_iff.mpr h.legal)]
  rfl

theorem resolve_of_reroutes {uri : Uri} (h : Reroutes rules r uri) :
    r.resolve (dispatch rules r.view) =
      (.forward { r with uri := uri, reroutedFrom := some r.uri }, some (.rerouted r.uri uri)) := by
  obtain ⟨text, target, hdispatch, htarget, huri⟩ := h
  rw [hdispatch, Request.resolve, rerouted?_eq_some_iff.mpr ⟨target, uri, htarget, huri, rfl⟩]

/-- A request that stays as it is goes on. If a rule wanted something else, that is an error. -/
theorem resolve_of_stays (h : Stays rules r) : ∃ notice,
    r.resolve (dispatch rules r.view) = (.forward r, notice) ∧
      errors (notice.toList.map Notice.event) = if dispatch rules r.view = .pass then 0 else 1 := by
  cases hdispatch : dispatch rules r.view with
  | pass => exact ⟨none, rfl, rfl⟩
  | reroute text =>
    refine ⟨some (.badTarget text), ?_, rfl⟩
    have hnone : r.rerouted? text = none := by
      rw [Option.eq_none_iff_forall_ne_some]
      intro r' hr'
      obtain ⟨target, uri, htarget, huri, -⟩ := rerouted?_eq_some_iff.mp hr'
      exact h.not_reroutes uri ⟨text, target, hdispatch, htarget, huri⟩
    rw [Request.resolve, hnone]
  | redirect status location =>
    refine ⟨some (.badLocation location), ?_, rfl⟩
    have hillegal : isFieldValue location ≠ true := fun hlegal =>
      h.not_redirects status location ⟨hdispatch, isFieldValue_iff.mp hlegal⟩
    rw [Request.resolve, if_neg hillegal]

/-- A request is redirected, goes on under another address, or stays as it is. -/
theorem redirects_or_reroutes_or_stays (rules : List Rule) (r : Request) :
    (∃ status location, Redirects rules r status location) ∨ (∃ uri, Reroutes rules r uri) ∨
      Stays rules r := by
  by_cases hredirects : ∃ status location, Redirects rules r status location
  · exact .inl hredirects
  · by_cases hreroutes : ∃ uri, Reroutes rules r uri
    · exact .inr (.inl hreroutes)
    · simp only [not_exists] at hredirects hreroutes
      exact .inr (.inr ⟨hredirects, hreroutes⟩)

/-! ## What is answered and what goes on -/

theorem answers_iff_redirects {response : Response} :
    Answers rules logger r response ↔ ∃ status location, Redirects rules r status location ∧
      response = ⟨status, [("location", location)], ""⟩ := by
  rw [answers_iff]
  constructor
  · intro haction
    obtain ⟨status, location, h⟩ | ⟨uri, h⟩ | h := redirects_or_reroutes_or_stays rules r
    · rw [resolve_of_redirects h] at haction
      cases haction
      exact ⟨status, location, h, rfl⟩
    · rw [resolve_of_reroutes h] at haction
      cases haction
    · obtain ⟨notice, hresolve, -⟩ := resolve_of_stays h
      rw [hresolve] at haction
      cases haction
  · rintro ⟨status, location, h, rfl⟩
    rw [resolve_of_redirects h]

theorem forwards_iff_reroutes_or_stays {r' : Request} :
    Forwards rules logger r r' ↔
      (∃ uri, Reroutes rules r uri ∧ r' = { r with uri := uri, reroutedFrom := some r.uri }) ∨
        Stays rules r ∧ r' = r := by
  rw [forwards_iff]
  constructor
  · intro haction
    obtain ⟨status, location, h⟩ | ⟨uri, h⟩ | h := redirects_or_reroutes_or_stays rules r
    · rw [resolve_of_redirects h] at haction
      cases haction
    · rw [resolve_of_reroutes h] at haction
      cases haction
      exact .inl ⟨uri, h, rfl⟩
    · obtain ⟨notice, hresolve, -⟩ := resolve_of_stays h
      rw [hresolve] at haction
      cases haction
      exact .inr ⟨h, rfl⟩
  · rintro (⟨uri, h, rfl⟩ | ⟨h, rfl⟩)
    · rw [resolve_of_reroutes h]
    · obtain ⟨notice, hresolve, -⟩ := resolve_of_stays h
      rw [hresolve]

/-- The new address has scheme and authority of the old one, and the target for its path and
query. -/
theorem parts_of_reroutes {uri : Uri} (h : Reroutes rules r uri) :
    uri.parts.scheme = r.uri.parts.scheme ∧ uri.parts.authority = r.uri.parts.authority ∧
      ∃ text target, dispatch rules r.view = .reroute text ∧
        PathAndQuery.parse? text = some target ∧ uri.url = target.text := by
  obtain ⟨text, target, hdispatch, htarget, huri⟩ := h
  rw [← Uri.withTarget?_eq] at huri
  obtain ⟨hscheme, hauthority, hurl⟩ := Uri.parts_of_withTarget? huri
  exact ⟨hscheme, hauthority, text, target, hdispatch, htarget, hurl⟩

/-! ## Errors -/

theorem errors_append (a b : List Event) : errors (a ++ b) = errors a + errors b :=
  List.countP_append

/-- To tell of a rule that applies is no error. -/
theorem errors_matchReports (rules : List Rule) (logger : Logger) (v : RequestView) :
    errors (logger.allEvents (matchReports rules v)) = 0 := by
  unfold matchReports
  cases firstApplicable rules v with
  | none => rfl
  | some rule =>
    cases logger with
    | silent => rfl
    | telling verbose => cases verbose <;> rfl

theorem errors_call {m : Type → Type} [Pure m] (inner : Service m) :
    errors (inner.call rules logger r).events =
      errors ((r.resolve (dispatch rules r.view)).2.toList.map Notice.event) := by
  have hevents : (inner.call rules logger r).events =
      logger.allEvents (matchReports rules r.view) ++
        (r.resolve (dispatch rules r.view)).2.toList.map Notice.event := rfl
  rw [hevents, errors_append, errors_matchReports, Nat.zero_add]

theorem errors_call_eq_one {m : Type → Type} [Pure m] (inner : Service m) (h : Stays rules r)
    (hpass : dispatch rules r.view ≠ .pass) : errors (inner.call rules logger r).events = 1 := by
  obtain ⟨notice, hresolve, herrors⟩ := resolve_of_stays h
  rw [errors_call, hresolve, herrors, if_neg hpass]

theorem errors_call_eq_zero {m : Type → Type} [Pure m] (inner : Service m)
    (h : ¬ (Stays rules r ∧ dispatch rules r.view ≠ .pass)) :
    errors (inner.call rules logger r).events = 0 := by
  rw [errors_call]
  obtain ⟨status, location, hredirects⟩ | ⟨uri, hreroutes⟩ | hstays :=
    redirects_or_reroutes_or_stays rules r
  · rw [resolve_of_redirects hredirects]
    rfl
  · rw [resolve_of_reroutes hreroutes]
    rfl
  · have hpass : dispatch rules r.view = .pass := not_not.mp fun hne => h ⟨hstays, hne⟩
    obtain ⟨notice, hresolve, herrors⟩ := resolve_of_stays hstays
    rw [hresolve, herrors, if_pos hpass]

end Actions

/-- **One action.** A service behind rules is called once or not at all, whatever the rules, the
request and the service are. If it is not called, the answer is the redirect of the rules. If it is,
the request has the address that the rules give it, of the same scheme and authority, or stays as
it is. A request that stays against the will of a rule is one error, and nothing else is an
error. -/
theorem call_acts_once (rules : List Rule) (logger : Logger) (r : Request) :
    ((∃! response, Answers rules logger r response) ∧ (∀ r', ¬ Forwards rules logger r r') ∨
      (∃! r', Forwards rules logger r r') ∧ ∀ response, ¬ Answers rules logger r response) ∧
    (∀ response, Answers rules logger r response ↔
      ∃ status location, Redirects rules r status location ∧
        response = ⟨status, [("location", location)], ""⟩) ∧
    (∀ r', Forwards rules logger r r' ↔
      (∃ uri, Reroutes rules r uri ∧ r' = { r with uri := uri, reroutedFrom := some r.uri }) ∨
        Stays rules r ∧ r' = r) ∧
    (∀ uri, Reroutes rules r uri → uri.parts.scheme = r.uri.parts.scheme ∧
      uri.parts.authority = r.uri.parts.authority ∧
      ∃ text target, dispatch rules r.view = .reroute text ∧
        PathAndQuery.parse? text = some target ∧ uri.url = target.text) ∧
    ∀ (m : Type → Type) [Pure m] (inner : Service m),
      (Stays rules r ∧ dispatch rules r.view ≠ .pass →
        errors (inner.call rules logger r).events = 1) ∧
      (¬ (Stays rules r ∧ dispatch rules r.view ≠ .pass) →
        errors (inner.call rules logger r).events = 0) := by
  refine ⟨?_, fun _ => answers_iff_redirects, fun _ => forwards_iff_reroutes_or_stays,
    fun _ => parts_of_reroutes, fun m _ inner => ⟨?_, errors_call_eq_zero inner⟩⟩
  · simp only [forwards_iff, answers_iff]
    cases (r.resolve (dispatch rules r.view)).1 with
    | answer response => exact .inl ⟨⟨response, rfl, fun _ h => by cases h; rfl⟩, by simp⟩
    | forward r' => exact .inr ⟨⟨r', rfl, fun _ h => by cases h; rfl⟩, by simp⟩
  · rintro ⟨hstays, hpass⟩
    exact errors_call_eq_one inner hstays hpass

end Detour
