import Detour.Proofs.Server.Answer
import Detour.Proofs.Server.Layer
import Detour.Proofs.Store.Change

/-!
# The books of a server

A server counts each request by what the rules make of it, before the outcome is applied. Where the
outcome cannot be applied an error is told, so that counters, answers, calls of the service behind
the rules and errors balance at every moment (`Server.books_balance`).
-/

namespace Detour

/-! ## What comes to a server -/

/-- A change of the rules or a request. -/
inductive Traffic where
  | change (c : Change)
  | request (r : Request)

namespace Traffic

/-- The changes among what comes. -/
def changes (traffic : List Traffic) : List Change :=
  traffic.filterMap fun
    | change c => some c
    | request _ => none

/-- The requests among what comes. -/
def requests (traffic : List Traffic) : List Request :=
  traffic.filterMap fun
    | change _ => none
    | request r => some r

end Traffic

/-- A request and the rules that it meets. -/
structure Passage where
  rules : List Rule
  request : Request

namespace Passage

variable (p : Passage)

/-- What the rules make of the request. -/
def outcome : Outcome := dispatch p.rules p.request.view

/-- Whether the service behind the rules is called, and with what. -/
def action : Action := (p.request.resolve p.outcome).1

/-- What is told of applying the outcome. -/
def notice : Option Notice := (p.request.resolve p.outcome).2

/-- No rule applies. -/
def isFree : Bool := p.rules.all fun rule => !rule.applies p.request.view

/-- The rules answer the request. -/
def isAnswered : Bool :=
  match p.action with
  | .answer _ => true
  | .forward _ => false

/-- The service is called with the address before a change. -/
def carriesMark : Bool :=
  match p.action with
  | .answer _ => false
  | .forward r => r.reroutedFrom.isSome

/-- The address is changed. -/
def isRerouted : Bool :=
  match p.notice with
  | some (.rerouted _ _) => true
  | _ => false

/-- The mark is not of these rules: the request came with it. -/
def keepsMark : Bool := p.carriesMark && !p.isRerouted

end Passage

/-! ## Balance -/

/-- How many errors tell the given text. -/
def told (message : String) (events : List Event) : ℕ :=
  events.countP fun e => e.level = .error ∧ e.message = message

/-- The error of a redirect whose target cannot stand in a header. -/
def badLocation : String := "Redirect target is not a valid header value, passing through"

/-- The error of a target that is no address. -/
def badTarget : String := "Rewrite target is not a valid URI, passing through"

/-- The counters account for the requests and the events. -/
structure Balanced (c : Counters) (passages : List Passage) (events : List Event) : Prop where
  total : c.pass + c.redirect + c.reroute = passages.length
  pass : c.pass = passages.countP Passage.isFree
  redirect : c.redirect = passages.countP Passage.isAnswered + told badLocation events
  reroute : c.reroute + passages.countP Passage.keepsMark =
    passages.countP Passage.carriesMark + told badTarget events

/-- The counts of two servers together. -/
def Counters.add (a b : Counters) : Counters :=
  ⟨a.pass + b.pass, a.redirect + b.redirect, a.reroute + b.reroute⟩

theorem Counters.zero_add (c : Counters) : zero.add c = c := by
  unfold add zero
  simp only [Nat.zero_add]

theorem Counters.count_eq_add (c : Counters) (o : Outcome) :
    c.count o = c.add (zero.count o) := by
  cases o <;> rfl

theorem told_append (message : String) (a b : List Event) :
    told message (a ++ b) = told message a + told message b := List.countP_append

/-- Books that balance add up. -/
theorem Balanced.add {c d : Counters} {passages later : List Passage}
    {events laterEvents : List Event} (h : Balanced c passages events)
    (h' : Balanced d later laterEvents) :
    Balanced (c.add d) (passages ++ later) (events ++ laterEvents) := by
  obtain ⟨htotal, hpass, hredirect, hreroute⟩ := h
  obtain ⟨htotal', hpass', hredirect', hreroute'⟩ := h'
  constructor <;> simp only [Counters.add, List.length_append, List.countP_append, told_append] <;>
    omega

/-- Events that tell of no target do not count. -/
theorem balanced_of_told {events : List Event} (hlocation : told badLocation events = 0)
    (htarget : told badTarget events = 0) : Balanced .zero [] events := by
  constructor <;> simp [Counters.zero, hlocation, htarget]

/-! ## Reports of rules -/

theorem message_of_mem_events {logger : Logger} {report : Report} {e : Event}
    (he : e ∈ logger.events report) (hlevel : e.level = .error) :
    e.message = "Wrong rule given" := by
  cases report with
  | warning w =>
    cases w <;> cases logger <;> simp [Logger.events, Warning.event] at he <;> simp [he] at hlevel
  | registered r =>
    cases logger <;> simp [Logger.events] at he
    simp [he] at hlevel
  | rejected error =>
    cases logger <;> simp [Logger.events] at he
    rw [he]
  | matched r url target =>
    cases logger with
    | silent => simp [Logger.events] at he
    | telling verbose =>
      cases verbose <;> simp [Logger.events] at he
      simp [he] at hlevel

/-- Reports of rules tell nothing of targets. -/
theorem told_allEvents {message : String} (h : message ≠ "Wrong rule given") (logger : Logger)
    (reports : List Report) : told message (logger.allEvents reports) = 0 := by
  unfold told Logger.allEvents
  rw [List.countP_eq_zero]
  intro e he
  obtain ⟨report, -, he⟩ := List.mem_flatMap.mp he
  simp only [decide_eq_true_eq, not_and]
  rintro hlevel rfl
  exact h (message_of_mem_events he hlevel)

theorem balanced_allEvents (logger : Logger) (reports : List Report) :
    Balanced .zero [] (logger.allEvents reports) :=
  balanced_of_told (told_allEvents (by decide) logger reports)
    (told_allEvents (by decide) logger reports)

/-! ## One request -/

/-- What an outcome comes to. -/
inductive Resolved (r : Request) : Outcome → Action × Option Notice → Prop where
  | passed : Resolved r .pass (.forward r, none)
  | answered (status : ℕ) (location : String) : Resolved r (.redirect status location)
      (.answer (.redirect status location), some (.redirecting r.uri location status))
  | badLocation (status : ℕ) (location : String) :
      Resolved r (.redirect status location) (.forward r, some (.badLocation location))
  | rerouted (text : String) (uri : Uri) : Resolved r (.reroute text)
      (.forward { r with uri := uri, reroutedFrom := some r.uri }, some (.rerouted r.uri uri))
  | badTarget (text : String) :
      Resolved r (.reroute text) (.forward r, some (.badTarget text))

theorem Request.resolved (r : Request) (o : Outcome) : Resolved r o (r.resolve o) := by
  unfold Request.resolve
  cases o with
  | pass => exact .passed
  | redirect status location =>
    dsimp only
    split
    · exact .answered status location
    · exact .badLocation status location
  | reroute text =>
    dsimp only
    cases hrerouted : r.rerouted? text with
    | none => exact .badTarget text
    | some r' =>
      obtain ⟨target, uri, -, -, rfl⟩ := rerouted?_eq_some_iff.mp hrerouted
      exact .rerouted text uri

theorem told_badLocation (notice : Option Notice) :
    told badLocation (notice.toList.map Notice.event) =
      match notice with
      | some (.badLocation _) => 1
      | _ => 0 := by
  cases notice with
  | none => rfl
  | some n => cases n <;> simp [told, Notice.event, badLocation]

theorem told_badTarget (notice : Option Notice) :
    told badTarget (notice.toList.map Notice.event) =
      match notice with
      | some (.badTarget _) => 1
      | _ => 0 := by
  cases notice with
  | none => rfl
  | some n => cases n <;> simp [told, Notice.event, badTarget]

namespace Passage

variable {p : Passage}

theorem isFree_iff : p.isFree = true ↔ p.outcome = .pass := by
  unfold isFree outcome
  rw [dispatch_eq_pass_iff, firstApplicable_eq_none_iff]
  simp only [List.all_eq_true, Bool.not_eq_true']

theorem isFree_eq_decide : p.isFree = decide (p.outcome = .pass) := by
  rw [Bool.eq_iff_iff, isFree_iff, decide_eq_true_eq]

/-- A request without a mark has none but that of the rules. -/
theorem keepsMark_eq_false (h : p.request.reroutedFrom = none) : p.keepsMark = false := by
  have hresolved := p.request.resolved p.outcome
  unfold keepsMark carriesMark isRerouted action notice
  generalize p.outcome = outcome at hresolved ⊢
  generalize p.request.resolve outcome = resolved at hresolved ⊢
  cases hresolved with
  | answered => rfl
  | rerouted => rfl
  | passed => simp only [h, Option.isSome_none, Bool.false_and]
  | badLocation => simp only [h, Option.isSome_none, Bool.false_and]
  | badTarget => simp only [h, Option.isSome_none, Bool.false_and]

/-- The books of one request. -/
theorem balanced (p : Passage) : Balanced (Counters.zero.count p.outcome) [p]
    (p.notice.toList.map Notice.event) := by
  have hresolved := p.request.resolved p.outcome
  refine ⟨?total, ?pass, ?redirect, ?reroute⟩
  case total => cases p.outcome <;> rfl
  case pass =>
    rw [List.countP_singleton, isFree_eq_decide]
    cases p.outcome <;> rfl
  case redirect =>
    rw [List.countP_singleton, told_badLocation]
    unfold isAnswered action notice
    generalize p.outcome = outcome at hresolved ⊢
    generalize p.request.resolve outcome = resolved at hresolved ⊢
    cases hresolved <;> rfl
  case reroute =>
    rw [List.countP_singleton, List.countP_singleton, told_badTarget]
    unfold keepsMark carriesMark isRerouted action notice
    generalize p.outcome = outcome at hresolved ⊢
    generalize p.request.resolve outcome = resolved at hresolved ⊢
    -- a request that goes on as it is keeps the mark that it came with, if any
    cases hresolved with
    | answered => rfl
    | rerouted => rfl
    | passed => simp only [Bool.not_false, Bool.and_true]; exact Nat.add_comm 0 _
    | badLocation => simp only [Bool.not_false, Bool.and_true]; exact Nat.add_comm 0 _
    | badTarget => simp only [Bool.not_false, Bool.and_true]; exact Nat.add_comm 1 _

end Passage

/-! ## A server and its books -/

/-- What is seen of a server as it takes a change or a request. -/
structure Sight where
  passage : Option Passage
  events : List Event

/-- The requests that were seen, each with the rules that it met. -/
def passagesOf (sights : List Sight) : List Passage := sights.filterMap Sight.passage

/-- The events that were seen. -/
def eventsOf (sights : List Sight) : List Event := sights.flatMap Sight.events

theorem passagesOf_cons (sight : Sight) (sights : List Sight) :
    passagesOf (sight :: sights) = sight.passage.toList ++ passagesOf sights := by
  unfold passagesOf
  rw [List.filterMap_cons]
  cases sight.passage <;> rfl

theorem passagesOf_append (a b : List Sight) :
    passagesOf (a ++ b) = passagesOf a ++ passagesOf b := List.filterMap_append

theorem eventsOf_cons (sight : Sight) (sights : List Sight) :
    eventsOf (sight :: sights) = sight.events ++ eventsOf sights := List.flatMap_cons

namespace Server

/-- Takes a change or a request. -/
def take (s : Server) : Traffic → Sight × Server
  | .change c => (⟨none, s.logger.allEvents c.reports⟩, { s with store := (c.perform s.store).2 })
  | .request r => (⟨some ⟨s.store.rules, r⟩, (s.serve r).events⟩, (s.serve r).server)

/-- What is seen of a server while it takes changes and requests. -/
abbrev sights (s : Server) (traffic : List Traffic) : List Sight := Run.replies take s traffic

/-- The server after some changes and requests. -/
abbrev taking (s : Server) (traffic : List Traffic) : Server := Run.after take s traffic

/-- Requests leave the rules and the gauge alone. -/
theorem store_take_request (s : Server) (r : Request) : (s.take (.request r)).2.store = s.store :=
  rfl

/-- Changes leave the counters alone. -/
theorem counters_take_change (s : Server) (c : Change) :
    (s.take (.change c)).2.counters = s.counters := rfl

theorem store_taking (s : Server) (traffic : List Traffic) :
    (s.taking traffic).store = Run.after Change.perform s.store (Traffic.changes traffic) := by
  refine Run.view_after take Change.perform store _ (fun s t => ?_) s traffic
  cases t with
  | change c => rfl
  | request r => rfl

/-- What is seen of one change or request balances what it counts. -/
theorem balanced_take (s : Server) (t : Traffic) : ∃ counted,
    (s.take t).2.counters = s.counters.add counted ∧
      Balanced counted (s.take t).1.passage.toList (s.take t).1.events := by
  cases t with
  | change c => exact ⟨.zero, rfl, balanced_allEvents s.logger c.reports⟩
  | request r =>
    refine ⟨Counters.zero.count (dispatch s.store.rules r.view),
      Counters.count_eq_add s.counters _, ?_⟩
    rw [← Counters.zero_add (Counters.count _ _)]
    exact (balanced_allEvents s.logger _).add (Passage.balanced ⟨s.store.rules, r⟩)

/-- Books that balance go on balancing. -/
theorem balanced_taking {s : Server} {passages : List Passage} {events : List Event}
    (h : Balanced s.counters passages events) (traffic : List Traffic) :
    Balanced (s.taking traffic).counters (passages ++ passagesOf (s.sights traffic))
      (events ++ eventsOf (s.sights traffic)) := by
  induction traffic generalizing s passages events with
  | nil =>
    show Balanced s.counters (passages ++ []) (events ++ [])
    rwa [List.append_nil, List.append_nil]
  | cons t traffic ih =>
    obtain ⟨counted, hcounters, hcounted⟩ := balanced_take s t
    have hnext := ih (s := (s.take t).2) (hcounters ▸ h.add hcounted)
    rw [List.append_assoc, List.append_assoc] at hnext
    rwa [sights, Run.replies_cons, passagesOf_cons, eventsOf_cons]

theorem requests_passagesOf (s : Server) (traffic : List Traffic) :
    (passagesOf (s.sights traffic)).map Passage.request = Traffic.requests traffic := by
  induction traffic generalizing s with
  | nil => rfl
  | cons t traffic ih =>
    rw [sights, Run.replies_cons, passagesOf_cons, List.map_append, ih]
    cases t <;> rfl

/-- A request meets the rules in force. -/
theorem getElem?_passagesOf (s : Server) (before : List Traffic) (r : Request)
    (later : List Traffic) :
    (passagesOf (s.sights (before ++ .request r :: later)))[(Traffic.requests before).length]? =
      some ⟨(s.taking before).store.rules, r⟩ := by
  have hlength : (Traffic.requests before).length = (passagesOf (s.sights before)).length := by
    rw [← requests_passagesOf s before, List.length_map]
  rw [sights, Run.replies_append, passagesOf_append, hlength,
    List.getElem?_append_right (Nat.le_refl _), Nat.sub_self]
  rfl

/-- **The books.** At every moment of every run each request is counted once; those that no rule
applies to as passed; those that the rules answer, or would answer with a target that cannot stand
in a header, as redirected; and those that the service receives with the address before a change, or
would if the target were an address, as rerouted, unless a request came with such a mark and kept
it. Each request meets the rules that were accepted since the last change of all rules. Changes
leave the counters alone, and requests leave the rules and the gauge alone. -/
theorem books_balance (raws : List RawRule) (logger : Logger) (handler : Handler)
    (traffic : List Traffic) :
    let s := (start raws logger handler).1
    let passages := passagesOf (s.sights traffic)
    let events := (start raws logger handler).2 ++ eventsOf (s.sights traffic)
    let now := s.taking traffic
    Balanced now.counters passages events ∧
    ((∀ r ∈ Traffic.requests traffic, r.reroutedFrom = none) →
      now.counters.reroute = passages.countP Passage.carriesMark + told badTarget events) ∧
    passages.map Passage.request = Traffic.requests traffic ∧
    (∀ before r later, traffic = before ++ .request r :: later →
      passages[(Traffic.requests before).length]? =
        some ⟨Store.accepted (givenSince raws (Traffic.changes before)), r⟩) ∧
    (∀ p : Passage, (∀ response, p.action = .answer response ↔
        Answers p.rules logger p.request response) ∧
      ∀ r', p.action = .forward r' ↔ Forwards p.rules logger p.request r') ∧
    now.store = Run.after Change.perform (Store.ofRaw raws) (Traffic.changes traffic) ∧
    (∀ c, (now.take (.change c)).2.counters = now.counters) ∧
    ∀ r, (now.take (.request r)).2.store = now.store := by
  intro s passages events now
  have hstart : Balanced s.counters [] (start raws logger handler).2 :=
    balanced_allEvents logger _
  have hbalanced : Balanced now.counters passages events := balanced_taking hstart traffic
  have hrequests : passages.map Passage.request = Traffic.requests traffic :=
    requests_passagesOf s traffic
  refine ⟨hbalanced, fun hunmarked => ?_, hrequests, ?_,
    fun p => ⟨fun _ => answers_iff.symm, fun _ => forwards_iff.symm⟩, store_taking s traffic,
    counters_take_change now, store_take_request now⟩
  · have hkeeps : passages.countP Passage.keepsMark = 0 := by
      rw [List.countP_eq_zero]
      intro p hp
      rw [Bool.not_eq_true]
      exact Passage.keepsMark_eq_false
        (hunmarked _ (hrequests ▸ List.mem_map_of_mem hp))
    rw [← hbalanced.reroute, hkeeps, Nat.add_zero]
  · intro before r later htraffic
    have hpassage := getElem?_passagesOf s before r later
    rw [store_taking] at hpassage
    rw [← htraffic] at hpassage
    rw [hpassage]
    exact congrArg (fun rules => some (Passage.mk rules r))
      (congrArg Store.rules (Store.after_ofRaw raws (Traffic.changes before)))

end Server

end Detour
