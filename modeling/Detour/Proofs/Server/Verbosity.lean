import Detour.Proofs.Server.Books
import Detour.Proofs.Server.Run

/-!
# Servers with different loggers

What a server does is the same under every logger: its answers, its rules, its counters and its
gauge. A verbose logger tells more than one that is not: in front of the events of each request that
some rule decides about comes one that tells of the match, and nothing else is added anywhere
(`Server.verbosity_adds_matches`).
-/

namespace Detour

/-! ## Telling of a match -/

/-- The event of a rule that decided about a request. -/
def matchEvent (action : String) (rule : Rule) (url target : String) : Event :=
  ⟨.info, action ++ " matched",
    [("condition", .string (rule.condition.text?.getD "No condition")),
      ("rule", .string rule.display), ("from", .string url), ("to", .string target)]⟩

/-- What a verbose logger tells of a request more than others: nothing if no rule applies, and
otherwise the one match. -/
inductive Passage.Matched (p : Passage) : List Event → Prop
  | passed (h : p.outcome = .pass) : Matched p []
  | redirected {rule : Rule} {status : ℕ} {target : String}
    (decides : Decides p.rules p.request.view rule) (h : p.outcome = .redirect status target) :
    Matched p [matchEvent ("REDIRECT " ++ toString status) rule p.request.view.url target]
  | rerouted {rule : Rule} {target : String}
    (decides : Decides p.rules p.request.view rule) (h : p.outcome = .reroute target) :
    Matched p [matchEvent "REWRITE" rule p.request.view.url target]

theorem Passage.Matched.length_eq {p : Passage} {told : List Event} (h : p.Matched told) :
    told.length = if p.outcome = .pass then 0 else 1 := by
  cases h with
  | passed h => rw [if_pos h]; rfl
  | redirected decides h => rw [h]; rfl
  | rerouted decides h => rw [h]; rfl

/-- The events of applying the outcome. -/
def Passage.applied (p : Passage) : List Event := p.notice.toList.map Notice.event

theorem allEvents_terse_matchReports (rules : List Rule) (v : RequestView) :
    (Logger.telling false).allEvents (matchReports rules v) = [] := by
  unfold matchReports
  cases firstApplicable rules v <;> rfl

theorem Passage.matched_allEvents (p : Passage) :
    p.Matched ((Logger.telling true).allEvents (matchReports p.rules p.request.view)) := by
  unfold matchReports
  cases hfirst : firstApplicable p.rules p.request.view with
  | none => exact .passed (dispatch_eq_pass_iff.mpr hfirst)
  | some rule =>
    have hrule := firstApplicable_eq_some_iff.mp hfirst
    have houtcome : p.outcome = rule.outcome p.request.view := dispatch_of_decides hrule
    have hevents : (Logger.telling true).allEvents
        [.matched rule p.request.view.url (rule.targetFor p.request.view)] =
        [matchEvent rule.action rule p.request.view.url (rule.targetFor p.request.view)] := rfl
    rw [hevents, Rule.action]
    rw [Rule.outcome] at houtcome
    cases hredirect : rule.redirect with
    | none =>
      rw [hredirect] at houtcome
      exact .rerouted hrule houtcome
    | some status =>
      rw [hredirect] at houtcome
      exact .redirected hrule houtcome

/-- Registering a rule is told alike, verbose or not. -/
theorem RawRule.allEvents_reports (raw : RawRule) (verbose : Bool) :
    (Logger.telling verbose).allEvents raw.reports =
      (Logger.telling false).allEvents raw.reports := by
  unfold reports Logger.allEvents
  cases Rule.compile raw with
  | error e => rfl
  | ok rule =>
    simp only [List.flatMap_append, List.flatMap_map]
    rfl

theorem allEvents_flatMap_reports (raws : List RawRule) (verbose : Bool) :
    (Logger.telling verbose).allEvents (raws.flatMap RawRule.reports) =
      (Logger.telling false).allEvents (raws.flatMap RawRule.reports) := by
  unfold Logger.allEvents
  rw [List.flatMap_assoc, List.flatMap_assoc]
  exact congrArg (raws.flatMap ·) (funext fun raw => raw.allEvents_reports verbose)

theorem Change.allEvents_reports (c : Change) (verbose : Bool) :
    (Logger.telling verbose).allEvents c.reports =
      (Logger.telling false).allEvents c.reports := by
  cases c with
  | register raw => exact raw.allEvents_reports verbose
  | tryRegister raw => exact raw.allEvents_reports verbose
  | replace raws => exact allEvents_flatMap_reports raws verbose
  | reset => rfl

namespace Server

/-! ## Another logger -/

/-- The server with another logger. -/
def withLogger (s : Server) (l : Logger) : Server := { s with logger := l }

/-- What is answered to a change or a request. -/
def replyTo (s : Server) : Traffic → ServerReply
  | .change c => .changed (c.perform s.store).1
  | .request r => .answered (s.serve r).response

/-- What is answered to some changes and requests. -/
abbrev repliesTo (s : Server) (traffic : List Traffic) : List ServerReply :=
  Run.replies (fun s t => (s.replyTo t, (s.take t).2)) s traffic

theorem replyTo_withLogger (s : Server) (l : Logger) (t : Traffic) :
    (s.withLogger l).replyTo t = s.replyTo t := by
  cases t <;> rfl

theorem take_withLogger (s : Server) (l : Logger) (t : Traffic) :
    ((s.withLogger l).take t).2 = (s.take t).2.withLogger l := by
  cases t <;> rfl

theorem taking_withLogger (s : Server) (l : Logger) (traffic : List Traffic) :
    (s.withLogger l).taking traffic = (s.taking traffic).withLogger l :=
  Run.after_map take (fun s t => take_withLogger s l t) s traffic

/-- The logger does not change an answer. -/
theorem repliesTo_withLogger (s : Server) (l : Logger) (traffic : List Traffic) :
    (s.withLogger l).repliesTo traffic = s.repliesTo traffic :=
  Run.replies_map (fun s t => (s.replyTo t, (s.take t).2)) (fun s t => take_withLogger s l t)
    (fun s t => replyTo_withLogger s l t) s traffic

/-! ## What is told -/

/-- The second of two sights of the same is the first without the match. -/
inductive Hushed : Sight → Sight → Prop
  | change (events : List Event) : Hushed ⟨none, events⟩ ⟨none, events⟩
  | request {p : Passage} {told : List Event} (h : p.Matched told) :
    Hushed ⟨some p, told ++ p.applied⟩ ⟨some p, p.applied⟩

/-- Without the match, only applying the outcome of a request is told of. -/
theorem take_request_terse (s : Server) (r : Request) :
    ((s.withLogger (.telling false)).take (.request r)).1 =
      ⟨some ⟨s.store.rules, r⟩, Passage.applied ⟨s.store.rules, r⟩⟩ := by
  show Sight.mk _ ((Logger.telling false).allEvents (matchReports s.store.rules r.view) ++ _) = _
  rw [allEvents_terse_matchReports, List.nil_append]
  rfl

theorem hushed_take (s : Server) (t : Traffic) :
    Hushed ((s.withLogger (.telling true)).take t).1 ((s.withLogger (.telling false)).take t).1 := by
  cases t with
  | change c =>
    show Hushed ⟨none, (Logger.telling true).allEvents c.reports⟩ ⟨none, _⟩
    rw [c.allEvents_reports]
    exact .change _
  | request r =>
    rw [take_request_terse]
    exact .request (Passage.matched_allEvents ⟨s.store.rules, r⟩)

theorem forall₂_hushed (s : Server) (traffic : List Traffic) :
    List.Forall₂ Hushed ((s.withLogger (.telling true)).sights traffic)
      ((s.withLogger (.telling false)).sights traffic) := by
  induction traffic generalizing s with
  | nil => exact .nil
  | cons t traffic ih =>
    rw [sights, sights, Run.replies_cons, Run.replies_cons, take_withLogger, take_withLogger]
    exact .cons (hushed_take s t) (ih _)

theorem Hushed.sublist {w t : Sight} (h : Hushed w t) : t.events.Sublist w.events := by
  cases h with
  | change events => exact List.Sublist.refl events
  | request h => exact List.sublist_append_right ..

theorem Hushed.length_events {w t : Sight} (h : Hushed w t) : w.events.length =
    t.events.length + t.passage.toList.countP fun p => p.outcome ≠ .pass := by
  cases h with
  | change events => rfl
  | @request p told h =>
    have hone : (if p.outcome = .pass then 0 else 1) = [p].countP fun p => p.outcome ≠ .pass := by
      rw [List.countP_singleton]
      by_cases hpass : p.outcome = .pass <;> simp [hpass]
    rw [List.length_append, h.length_eq, hone, Nat.add_comm]
    rfl

/-- Of a whole run the shorter log is the longer one with one event left out for each request that
some rule decides about. -/
theorem eventsOf_hushed {wordy terse : List Sight} (h : List.Forall₂ Hushed wordy terse) :
    (eventsOf terse).Sublist (eventsOf wordy) ∧ (eventsOf wordy).length =
      (eventsOf terse).length + (passagesOf terse).countP fun p => p.outcome ≠ .pass := by
  induction h with
  | nil => exact ⟨List.Sublist.refl _, rfl⟩
  | @cons w t wordy terse hfirst _ ih =>
    obtain ⟨hsublist, hlength⟩ := ih
    rw [eventsOf_cons, eventsOf_cons, passagesOf_cons, List.countP_append, List.length_append,
      List.length_append, hfirst.length_events, hlength]
    exact ⟨hfirst.sublist.append hsublist, by omega⟩

/-! ## Runs -/

/-- The rules that a request meets are those accepted since the last change of all rules. -/
theorem rules_taking_start (raws : List RawRule) (l : Logger) (handler : Handler)
    (before : List Traffic) : ((start raws l handler).1.taking before).store.rules =
      Store.accepted (givenSince raws (Traffic.changes before)) := by
  rw [store_taking]
  exact congrArg Store.rules (Store.after_ofRaw raws (Traffic.changes before))

/-- **Verbosity.** Whatever comes to a server, its answers, rules, gauge and counters are the same
under all settings of the logger. What is told of a change is the same whether or not the logger is
verbose. Of a request that some rule decides about a verbose logger tells the match first, with the
condition and the rule, the address and the target, and then what other loggers tell of applying the
outcome; of any other request it tells nothing more. -/
theorem verbosity_adds_matches (raws : List RawRule) (handler : Handler) (traffic : List Traffic) :
    (∀ silent verbose silent' verbose' : Bool,
      let s := (start raws (.ofOptions silent verbose) handler).1
      let s' := (start raws (.ofOptions silent' verbose') handler).1
      s.repliesTo traffic = s'.repliesTo traffic ∧
        (s.taking traffic).store = (s'.taking traffic).store ∧
        (s.taking traffic).counters = (s'.taking traffic).counters) ∧
    let wordy := start raws (.ofOptions false true) handler
    let terse := start raws (.ofOptions false false) handler
    wordy.2 = terse.2 ∧
    List.Forall₂ Hushed (wordy.1.sights traffic) (terse.1.sights traffic) ∧
    (∀ before c later, traffic = before ++ .change c :: later →
      ∃ events, (terse.1.sights traffic)[before.length]? = some ⟨none, events⟩) ∧
    (∀ before r later, traffic = before ++ .request r :: later →
      let p : Passage := ⟨Store.accepted (givenSince raws (Traffic.changes before)), r⟩
      (terse.1.sights traffic)[before.length]? = some ⟨some p, p.applied⟩) ∧
    (eventsOf (terse.1.sights traffic)).Sublist (eventsOf (wordy.1.sights traffic)) ∧
    (eventsOf (wordy.1.sights traffic)).length = (eventsOf (terse.1.sights traffic)).length +
      (passagesOf (terse.1.sights traffic)).countP fun p => p.outcome ≠ .pass := by
  refine ⟨fun silent verbose silent' verbose' => ?_, ?_⟩
  · intro s s'
    have hs : s' = s.withLogger (.ofOptions silent' verbose') := rfl
    rw [hs, repliesTo_withLogger, taking_withLogger]
    exact ⟨rfl, rfl, rfl⟩
  · intro wordy terse
    have hhushed : List.Forall₂ Hushed (wordy.1.sights traffic) (terse.1.sights traffic) :=
      forall₂_hushed terse.1 traffic
    refine ⟨allEvents_flatMap_reports raws true, hhushed, ?_, ?_, eventsOf_hushed hhushed⟩
    · rintro before c later rfl
      exact ⟨_, Run.getElem?_replies ..⟩
    · rintro before r later rfl p
      -- no step exchanges the logger, so the request still meets one that is not verbose
      have hterse : terse.1.taking before = (terse.1.taking before).withLogger (.telling false) :=
        taking_withLogger terse.1 (.telling false) before
      have hrules : (terse.1.taking before).store.rules = p.rules :=
        rules_taking_start raws (.ofOptions false false) handler before
      have hpassage : p = ⟨(terse.1.taking before).store.rules, r⟩ := by rw [hrules]
      rw [Run.getElem?_replies, hpassage, ← take_request_terse, ← hterse]

end Server

end Detour
