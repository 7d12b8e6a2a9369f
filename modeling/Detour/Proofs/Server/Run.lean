import Detour.Config.Schema
import Detour.Proofs.Json.Character
import Detour.Proofs.Server.Answer
import Detour.Proofs.Store.Change

/-!
# Runs of an echoing server

While a server runs, its rules are changed and requests come in. Whatever happened before, a request
is answered as it is owed under the rules that were accepted since the last change of all rules
(`Server.run_answers`).
-/

namespace Detour

/-- A request as it comes in. -/
structure Incoming where
  request : Request
  isBuilt : ∃ method url headers body, Request.build? method url headers body = some request

theorem Incoming.reroutedFrom_eq_none (r : Incoming) : r.request.reroutedFrom = none := by
  obtain ⟨method, url, headers, body, h⟩ := r.isBuilt
  unfold Request.build? at h
  split at h
  · obtain ⟨uri, -, hr⟩ := Option.map_eq_some_iff.mp h
    rw [← hr]
  · cases h

/-- What happens to a server. -/
inductive ServerStep where
  | change (c : Change)
  | request (r : Incoming)

/-- What it answers. -/
inductive ServerReply where
  | changed (reply : ChangeReply)
  | answered (response : Response)

/-- The changes among some steps. -/
def ServerStep.changes (steps : List ServerStep) : List Change :=
  steps.filterMap fun
    | change c => some c
    | request _ => none

namespace Server

/-- The server of a configuration with the given rules; `files` is what stands in the directory that
the configuration names. -/
def ofConfig (c : Config) (files : FileTree) (raws : List RawRule) : Server :=
  let logger := Logger.ofOptions c.logging.silent c.logging.verbose
  (start raws logger (if c.server.root.isSome then .files files else .echo)).1

/-- Takes one step. -/
def perform (s : Server) : ServerStep → ServerReply × Server
  | .change c => (.changed (c.perform s.store).1, { s with store := (c.perform s.store).2 })
  | .request r => (.answered (s.serve r.request).response, (s.serve r.request).server)

/-- The server after some steps. -/
abbrev after (s : Server) (steps : List ServerStep) : Server := Run.after perform s steps

/-- The answers to some steps. -/
abbrev replies (s : Server) (steps : List ServerStep) : List ServerReply :=
  Run.replies perform s steps

theorem perform_change (s : Server) (c : Change) : s.perform (.change c) =
    (.changed (c.perform s.store).1, { s with store := (c.perform s.store).2 }) := rfl

theorem perform_request (s : Server) (r : Incoming) : s.perform (.request r) =
    (.answered (s.serve r.request).response, (s.serve r.request).server) := rfl

/-- No step exchanges what stands behind the rules. -/
theorem handler_after (s : Server) (steps : List ServerStep) :
    (s.after steps).handler = s.handler := by
  refine Run.after_induction perform (P := fun _ t => t.handler = s.handler) rfl ?_ steps
  intro _ t step ht
  cases step with
  | change c => exact ht
  | request r => exact ht

/-- Requests do not touch the rules. -/
theorem store_after (s : Server) (steps : List ServerStep) :
    (s.after steps).store = Run.after Change.perform s.store (ServerStep.changes steps) := by
  refine Run.view_after perform Change.perform store _ (fun s step => ?_) s steps
  cases step with
  | change c => rfl
  | request r => rfl

theorem handler_ofConfig {c : Config} (h : c.server.root = none) (files : FileTree)
    (raws : List RawRule) : (ofConfig c files raws).handler = .echo := by
  show (if c.server.root.isSome then Handler.files files else .echo) = .echo
  rw [h]
  rfl

theorem rules_after_ofConfig (c : Config) (files : FileTree) (raws : List RawRule)
    (steps : List ServerStep) : ((ofConfig c files raws).after steps).store.rules =
      Store.accepted (givenSince raws (ServerStep.changes steps)) := by
  rw [store_after]
  exact congrArg Store.rules (Store.after_ofRaw raws (ServerStep.changes steps))

/-- **Runs.** Whatever happened to a server without a directory before, the answer to a request is
the one that is owed to it under the rules that were accepted since the last change of all rules. -/
theorem run_answers {c : Config} (hroot : c.server.root = none) (files : FileTree)
    (raws : List RawRule) (before : List ServerStep) (r : Incoming) (later : List ServerStep) :
    ∃ response,
      ((ofConfig c files raws).replies (before ++ .request r :: later))[before.length]? =
        some (.answered response) ∧
      ∀ other, Owed (Store.accepted (givenSince raws (ServerStep.changes before))) r.request other ↔
        other = response := by
  have hhandler : ((ofConfig c files raws).after before).handler = .echo := by
    rw [handler_after, handler_ofConfig hroot]
  refine ⟨_, ?_, fun other => owed_iff r.reroutedFrom_eq_none⟩
  rw [replies, Run.getElem?_replies, perform_request, response_serve, hhandler,
    rules_after_ofConfig]

/-! ## Two requests -/

/-- A rule that changes an address. -/
def oldToNew : RawRule := ⟨none, some (.string "^/old$"), some (.string "/new"), none⟩

def getOld : Incoming where
  request := ⟨"GET", .origin ⟨"/old", none⟩, [], "", none⟩
  isBuilt := ⟨"GET", "/old", [], "", by decide +kernel⟩

theorem exists_compile_oldToNew : ∃ rule, Rule.compile oldToNew = .ok rule ∧
    rule.AppliesTo getOld.request.view ∧ rule.redirect = none ∧
    PathAndQuery.parse? (rule.targetFor getOld.request.view) = some ⟨"/new", none⟩ := by
  have heval : ((Rule.compile oldToNew).toOption.any fun rule =>
      rule.applies getOld.request.view && rule.redirect.isNone &&
        decide (PathAndQuery.parse? (rule.targetFor getOld.request.view) = some ⟨"/new", none⟩)) =
      true := by decide +kernel
  obtain ⟨rule, hrule, hholds⟩ := exists_ok_of_any heval
  simp only [Bool.and_eq_true, Option.isNone_iff_eq_none, decide_eq_true_eq] at hholds
  obtain ⟨⟨happ, hredirect⟩, htarget⟩ := hholds
  exact ⟨rule, hrule, Rule.applies_iff_appliesTo.mp happ, hredirect, htarget⟩

/-- The address that such a rule changes is told by the echo. -/
theorem run_answers_oldToNew :
    ({} : Config).server.root = none ∧
      ((ofConfig {} ⟨[]⟩ [oldToNew]).replies [.request getOld])[0]? =
        some (.answered (echo "GET" (.origin ⟨"/new", none⟩) (some (.origin ⟨"/old", none⟩)))) := by
  obtain ⟨rule, hrule, happ, hredirect, htarget⟩ := exists_compile_oldToNew
  obtain ⟨response, hreply, howed⟩ := run_answers (c := {}) rfl ⟨[]⟩ [oldToNew] [] getOld []
  have hdecides : Decides (Store.accepted [oldToNew]) getOld.request.view rule := by
    refine ⟨[], [], ?_, List.forall_mem_nil _, happ⟩
    exact Store.accepted_concat_ok hrule []
  have hresponse := (howed _).mp (.rerouted hdecides hredirect htarget rfl)
  rw [← hresponse] at hreply
  exact ⟨rfl, hreply⟩

def headRoot : Incoming where
  request := ⟨"HEAD", .origin ⟨"/", none⟩, [], "", none⟩
  isBuilt := ⟨"HEAD", "/", [], "", by decide +kernel⟩

/-- A request that no rule applies to need not be answered by a text: `HEAD` is not. -/
theorem not_every_request_echoed :
    ¬ ∀ (c : Config) (files : FileTree) (r : Incoming), c.server.root = none →
      ((ofConfig c files []).replies [.request r])[0]? =
        some (.answered (.json 200 (Json.ofMembers [("method", .string r.request.method),
          ("url", .string r.request.uri.display)]))) := by
  intro hall
  have hreply : ((ofConfig {} ⟨[]⟩ []).replies [.request headRoot])[0]? =
      some (.answered (echo "HEAD" (.origin ⟨"/", none⟩) none)) := rfl
  have hechoed := hall {} ⟨[]⟩ headRoot rfl
  rw [hreply] at hechoed
  have hbody := congrArg Response.body (ServerReply.answered.inj (Option.some.inj hechoed))
  have hempty := congrArg String.isEmpty hbody
  rw [show (Response.json 200 _).body = Json.render _ from rfl, Json.isEmpty_render] at hempty
  cases hempty

end Server

end Detour
