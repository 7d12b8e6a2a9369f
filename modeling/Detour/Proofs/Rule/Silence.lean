import Detour.Proofs.Rule.Gate
import Detour.Proofs.Store.Change
import Detour.Rule.Log

/-!
# What a silent logger lets through

A silent logger drops what is told of rules that are registered, refused or matched. A warning is
told past it: a silent session still tells every doubt about a rule that is accepted, and nothing
else (`silent_session_tells_doubts`). So a session is silent only if no such rule gives reason for a
doubt, and not every session is (`not_every_silent_session_silent`).
-/

namespace Detour

/-! ## Doubts -/

/-- The doubts about a raw rule that is accepted: the first line of its condition has a pattern that
does not compile, with anchors at the ends of lines, or its redirect denotes a number that is no
status. -/
inductive RawRule.Doubt (raw : RawRule) : Warning → Prop
  | condition {rule : Rule} {text : String} {line : ConditionLine} {e : PatternError}
    (accepted : Rule.compile raw = .ok rule) (given : raw.condition = some (.string text))
    (first : line.IsFirstIn text.toList)
    (bad : Pattern.compile ("(?m)" ++ String.ofList line.pattern) = .error e) :
    Doubt raw (.conditionPattern text)
  | redirect {rule : Rule} {value : Json} {n : ℕ} (accepted : Rule.compile raw = .ok rule)
    (given : raw.redirect = some value) (counts : ¬ value.Falsy)
    (code : Redirect.code? value = some n) (range : n < 100 ∨ 999 < n) :
    Doubt raw (.redirectRange value)

theorem Condition.hasBadPattern_iff {text : String} : hasBadPattern text = true ↔
    ∃ (line : ConditionLine) (e : PatternError), line.IsFirstIn text.toList ∧
      Pattern.compile ("(?m)" ++ String.ofList line.pattern) = .error e := by
  unfold hasBadPattern
  simp only [ConditionLine.isFirstIn_iff, ← ConditionLine.compile_eq]
  cases ConditionLine.ofText? text.toList with
  | none => simp
  | some line => cases hline : line.compile <;> simp [hline]

theorem Redirect.outOfRange_iff {value : Json} : outOfRange value = true ↔
    ¬ value.Falsy ∧ ∃ n, code? value = some n ∧ (n < 100 ∨ 999 < n) := by
  have hstatus (n : ℕ) : isStatus n = false ↔ n < 100 ∨ 999 < n := by
    simp only [isStatus, Bool.and_eq_false_iff, decide_eq_false_iff_not, Nat.not_le]
  unfold outOfRange
  simp only [Bool.and_eq_true, Option.any_eq_true, Bool.not_eq_true', hstatus, Json.falsy_iff,
    Bool.not_eq_false]

theorem Rule.warnings_error {raw : RawRule} {e : RuleError} (h : compile raw = .error e) :
    warnings raw = [] := by
  unfold warnings; rw [h]

/-- What is warned of is what there is reason to doubt. -/
theorem Rule.mem_warnings_iff {raw : RawRule} {w : Warning} : w ∈ warnings raw ↔ raw.Doubt w := by
  cases hcompile : compile raw with
  | error e =>
    rw [warnings_error hcompile]
    refine ⟨fun h => absurd h List.not_mem_nil, ?_⟩
    rintro (⟨accepted, -, -, -⟩ | ⟨accepted, -, -, -, -⟩) <;> cases hcompile.symm.trans accepted
  | ok rule =>
    unfold warnings
    rw [hcompile, List.mem_append]
    constructor
    · rintro (h | h)
      · split at h
        · rename_i text hgiven
          split at h
          · obtain ⟨line, e, hfirst, hbad⟩ := Condition.hasBadPattern_iff.mp ‹_›
            rw [List.mem_singleton.mp h]
            exact .condition hcompile hgiven hfirst hbad
          · cases h
        · cases h
      · split at h
        · rename_i value hgiven
          split at h
          · obtain ⟨hcounts, n, hcode, hrange⟩ := Redirect.outOfRange_iff.mp ‹_›
            rw [List.mem_singleton.mp h]
            exact .redirect hcompile hgiven hcounts hcode hrange
          · cases h
        · cases h
    · rintro (⟨-, hgiven, hfirst, hbad⟩ | ⟨-, hgiven, hcounts, hcode, hrange⟩)
      · simp [hgiven, Condition.hasBadPattern_iff.mpr ⟨_, _, hfirst, hbad⟩]
      · simp [hgiven, Redirect.outOfRange_iff.mpr ⟨hcounts, _, hcode, hrange⟩]

/-! ## Sessions and what they log -/

/-- What is done with a store. -/
inductive Use where
  | register (raw : RawRule)
  | dispatch (v : RequestView)

namespace Use

/-- What is logged of a use, and the store after it. -/
def perform (l : Logger) (s : Store) : Use → List Event × Store
  | register raw => (l.allEvents raw.reports, (s.register raw).2)
  | dispatch v => (l.allEvents (matchReports s.rules v), s)

/-- What a use tells past a silent logger. -/
def doubts : Use → List Event
  | register raw => (Rule.warnings raw).map Warning.event
  | dispatch _ => []

/-- The rules are registered one by one, then all requests are dispatched. -/
def session (raws : List RawRule) (views : List RequestView) : List Use :=
  raws.map register ++ views.map dispatch

/-- What is logged of some uses of a store that is empty at first. -/
def log (l : Logger) (uses : List Use) : List Event :=
  (Run.replies (perform l) .empty uses).flatten

theorem flatMap_doubts_session (raws : List RawRule) (views : List RequestView) :
    (session raws views).flatMap doubts =
      raws.flatMap fun raw => (Rule.warnings raw).map Warning.event := by
  have hviews : (views.map dispatch).flatMap doubts = [] := by
    rw [List.flatMap_map]
    exact List.flatMap_eq_nil_iff.mpr fun _ _ => rfl
  rw [session, List.flatMap_append, hviews, List.append_nil, List.flatMap_map]
  rfl

end Use

/-! ## Silence -/

theorem Logger.ofOptions_silent (verbose : Bool) : ofOptions true verbose = silent := rfl

/-- A warning is told by every logger. -/
theorem Logger.allEvents_warnings (l : Logger) (warnings : List Warning) :
    l.allEvents (warnings.map Report.warning) = warnings.map Warning.event := by
  have hevents : ∀ w, l.events (.warning w) = [w.event] := by
    intro w
    cases l <;> rfl
  unfold allEvents
  rw [List.flatMap_map, List.map_eq_flatMap]
  simp only [hevents]

/-- What is told of an accepted rule: the doubts about it, and that it is there. -/
theorem RawRule.allEvents_reports_ok {raw : RawRule} {rule : Rule} (h : Rule.compile raw = .ok rule)
    (l : Logger) : l.allEvents raw.reports =
      (Rule.warnings raw).map Warning.event ++ l.events (.registered rule) := by
  have hreports : raw.reports = (Rule.warnings raw).map .warning ++ [.registered rule] := by
    unfold reports
    rw [h]
  rw [hreports, ← l.allEvents_warnings]
  exact List.flatMap_append.trans (congrArg _ (List.flatMap_singleton _ _))

theorem RawRule.allEvents_silent_reports (raw : RawRule) :
    Logger.silent.allEvents raw.reports = (Rule.warnings raw).map Warning.event := by
  cases hcompile : Rule.compile raw with
  | error e =>
    unfold reports
    rw [hcompile, Rule.warnings_error hcompile]
    rfl
  | ok rule => exact (allEvents_reports_ok hcompile .silent).trans (List.append_nil _)

theorem allEvents_silent_matchReports (rules : List Rule) (v : RequestView) :
    Logger.silent.allEvents (matchReports rules v) = [] := by
  unfold matchReports
  cases firstApplicable rules v <;> rfl

/-- A silent logger lets nothing of a use through but its doubts. -/
theorem Use.perform_silent (s : Store) (u : Use) : (perform .silent s u).1 = u.doubts := by
  cases u with
  | register raw => exact raw.allEvents_silent_reports
  | dispatch v => exact allEvents_silent_matchReports s.rules v

theorem Use.replies_silent (s : Store) (uses : List Use) :
    Run.replies (perform .silent) s uses = uses.map doubts := by
  induction uses generalizing s with
  | nil => rfl
  | cons u uses ih => rw [Run.replies_cons, perform_silent, ih, List.map_cons]

theorem Use.log_silent (uses : List Use) : log .silent uses = uses.flatMap doubts := by
  rw [log, replies_silent, List.flatMap_def]

/-- **Silence.** Whatever rules are registered and whatever requests are dispatched over them, in
whatever order, a silent logger lets through the doubts about the accepted rules, in the order of
their registration, and nothing else. So a session is silent just if there is no reason to doubt any
of its rules. -/
theorem silent_session_tells_doubts (verbose : Bool) :
    (∀ uses, Use.log (.ofOptions true verbose) uses = uses.flatMap Use.doubts) ∧
    (∀ raws views, Use.log (.ofOptions true verbose) (Use.session raws views) =
      raws.flatMap fun raw => (Rule.warnings raw).map Warning.event) ∧
    (∀ raw w, w ∈ Rule.warnings raw ↔ raw.Doubt w) ∧
    ∀ raws views, Use.log (.ofOptions true verbose) (Use.session raws views) = [] ↔
      ∀ raw ∈ raws, ∀ w, ¬ raw.Doubt w := by
  have hsession : ∀ raws views, Use.log (.ofOptions true verbose) (Use.session raws views) =
      raws.flatMap fun raw => (Rule.warnings raw).map Warning.event := by
    intro raws views
    rw [Logger.ofOptions_silent, Use.log_silent, Use.flatMap_doubts_session]
  refine ⟨Use.log_silent, hsession, fun _ _ => Rule.mem_warnings_iff, fun raws views => ?_⟩
  rw [hsession, List.flatMap_eq_nil_iff]
  refine forall₂_congr fun raw _ => ?_
  rw [List.map_eq_nil_iff, List.eq_nil_iff_forall_not_mem]
  simp only [Rule.mem_warnings_iff]

/-! ## A session that is not silent -/

/-- A rule that redirects with a number that is no status. -/
def badStatus : RawRule := ⟨none, some (.string "/"), some (.string "/"), some (.int 1)⟩

/-- A session whose logger is silent need not be silent. -/
theorem not_every_silent_session_silent :
    ¬ ∀ (raws : List RawRule) (views : List RequestView) (verbose : Bool),
      Use.log (.ofOptions true verbose) (Use.session raws views) = [] := by
  intro hall
  have hempty := hall [badStatus] [] false
  have htold : (Use.log (.ofOptions true false) (Use.session [badStatus] [])).length = 1 := by
    decide +kernel
  rw [hempty] at htold
  cases htold

end Detour
