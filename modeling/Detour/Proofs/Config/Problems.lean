import Detour.Config.Load
import Mathlib.Data.List.Basic

/-!
# The problems of a configuration

Every check of a configuration is made, whatever the others find. So the problems are those of the
checks that fail (`Config.mem_problems_iff`), each once and in the order of the sections
(`Config.pairwise_problems`), and a document is loaded if there are none
(`Config.ofText_eq_ok_iff`).
-/

namespace Detour

/-- The settings that are checked, in their order. -/
def checkedSettings : List String :=
  ["listener.bind_address", "server.request_timeout_secs", "observability.metrics_address",
    "admin.bind_address", "admin.api_key"]

/-- The setting that a problem is about. -/
def ConfigProblem.setting : ConfigProblem → String
  | invalidAddress field _ => field
  | zeroTimeout => "server.request_timeout_secs"
  | missingAdminKey => "admin.api_key"

/-- The place of the setting that a problem is about. -/
def ConfigProblem.place (p : ConfigProblem) : ℕ := checkedSettings.idxOf p.setting

namespace Config

/-- A check of the configuration fails, with the problem that it reports. -/
inductive Fails (c : Config) : ConfigProblem → Prop
  | listener (h : isSocketAddress c.listener.bindAddress = false) :
    Fails c (.invalidAddress "listener.bind_address" c.listener.bindAddress)
  | timeout (h : c.server.requestTimeoutSecs = 0) : Fails c .zeroTimeout
  | metrics (enabled : c.observability.metricsEnabled = true)
    (h : isSocketAddress c.observability.metricsAddress = false) :
    Fails c (.invalidAddress "observability.metrics_address" c.observability.metricsAddress)
  | adminAddress (enabled : c.admin.enabled = true)
    (h : isSocketAddress c.admin.bindAddress = false) :
    Fails c (.invalidAddress "admin.bind_address" c.admin.bindAddress)
  | adminKey (enabled : c.admin.enabled = true) (h : isBlank c.admin.apiKey = true) :
    Fails c .missingAdminKey

/-- All settings that are in use are sound. -/
structure IsSound (c : Config) : Prop where
  listener : isSocketAddress c.listener.bindAddress = true
  timeout : c.server.requestTimeoutSecs ≠ 0
  metrics : c.observability.metricsEnabled = true →
    isSocketAddress c.observability.metricsAddress = true
  admin : c.admin.enabled = true →
    isSocketAddress c.admin.bindAddress = true ∧ isBlank c.admin.apiKey = false

theorem mem_addressProblems_iff {field value : String} {p : ConfigProblem} :
    p ∈ addressProblems field value ↔
      isSocketAddress value = false ∧ p = .invalidAddress field value := by
  unfold addressProblems
  by_cases h : isSocketAddress value = true <;> simp [h]

theorem mem_problems_iff {c : Config} {p : ConfigProblem} : p ∈ c.problems ↔ c.Fails p := by
  unfold problems
  simp only [List.mem_append]
  constructor
  · rintro (((h | h) | h) | h)
    · obtain ⟨hbad, rfl⟩ := mem_addressProblems_iff.mp h
      exact .listener hbad
    · split at h
      · rw [List.mem_singleton.mp h]
        exact .timeout ‹_›
      · cases h
    · split at h
      · obtain ⟨hbad, rfl⟩ := mem_addressProblems_iff.mp h
        exact .metrics ‹_› hbad
      · cases h
    · split at h
      · rcases List.mem_append.mp h with h | h
        · obtain ⟨hbad, rfl⟩ := mem_addressProblems_iff.mp h
          exact .adminAddress ‹_› hbad
        · split at h
          · rw [List.mem_singleton.mp h]
            exact .adminKey ‹_› ‹_›
          · cases h
      · cases h
  · rintro (h | h | ⟨enabled, h⟩ | ⟨enabled, h⟩ | ⟨enabled, h⟩)
    · simp [mem_addressProblems_iff, h]
    · simp [h]
    · simp [mem_addressProblems_iff, enabled, h]
    · simp [mem_addressProblems_iff, enabled, h]
    · simp [enabled, h]

/-- The problems of one check are about its setting, and there is one at most. -/
def AtMostOne (place : ℕ) (problems : List ConfigProblem) : Prop :=
  problems.length ≤ 1 ∧ ∀ p ∈ problems, p.place = place

theorem atMostOne_nil (place : ℕ) : AtMostOne place [] := ⟨Nat.zero_le 1, List.forall_mem_nil _⟩

theorem atMostOne_singleton (p : ConfigProblem) : AtMostOne p.place [p] := by
  refine ⟨Nat.le_refl 1, fun q hq => ?_⟩
  rw [List.mem_singleton.mp hq]

theorem atMostOne_addressProblems (field value : String) :
    AtMostOne (checkedSettings.idxOf field) (addressProblems field value) := by
  unfold addressProblems
  split
  · exact atMostOne_nil _
  · exact atMostOne_singleton (.invalidAddress field value)

/-- The problems of ever later checks come one after the other. -/
def Ordered (limit : ℕ) (problems : List ConfigProblem) : Prop :=
  problems.Pairwise (fun p q => p.place < q.place) ∧ ∀ p ∈ problems, p.place < limit

theorem Ordered.append {limit place : ℕ} {problems more : List ConfigProblem}
    (h : Ordered limit problems) (hplace : limit ≤ place) (hmore : AtMostOne place more) :
    Ordered (place + 1) (problems ++ more) := by
  have hone : more.Pairwise fun p q => p.place < q.place := by
    obtain ⟨hlength, -⟩ := hmore
    match more, hlength with
    | [], _ => exact .nil
    | [p], _ => exact List.pairwise_singleton _ _
  refine ⟨List.pairwise_append.mpr ⟨h.1, hone, fun p hp q hq => ?_⟩, fun p hp => ?_⟩
  · have hbefore := h.2 p hp
    have hafter := hmore.2 q hq
    omega
  · rcases List.mem_append.mp hp with hp | hp
    · have hbefore := h.2 p hp
      omega
    · have hafter := hmore.2 p hp
      omega

/-- Each problem is about a later setting than the one before it. -/
theorem pairwise_problems (c : Config) : c.problems.Pairwise fun p q => p.place < q.place := by
  have hnil : Ordered 0 [] := ⟨.nil, List.forall_mem_nil _⟩
  have htimeout : AtMostOne 1
      (if c.server.requestTimeoutSecs = 0 then [ConfigProblem.zeroTimeout] else []) := by
    split
    · exact atMostOne_singleton .zeroTimeout
    · exact atMostOne_nil 1
  have hmetrics : AtMostOne 2 (if c.observability.metricsEnabled then
      addressProblems "observability.metrics_address" c.observability.metricsAddress else []) := by
    split
    · exact atMostOne_addressProblems ..
    · exact atMostOne_nil 2
  have hkey : AtMostOne 4
      (if isBlank c.admin.apiKey then [ConfigProblem.missingAdminKey] else []) := by
    split
    · exact atMostOne_singleton .missingAdminKey
    · exact atMostOne_nil 4
  have hbefore := ((hnil.append (Nat.le_refl 0)
    (atMostOne_addressProblems "listener.bind_address" c.listener.bindAddress)).append
      (Nat.le_refl 1) htimeout).append (Nat.le_refl 2) hmetrics
  unfold problems
  by_cases henabled : c.admin.enabled = true
  · rw [if_pos henabled, ← List.append_assoc]
    exact ((hbefore.append (Nat.le_refl 3)
      (atMostOne_addressProblems "admin.bind_address" c.admin.bindAddress)).append
        (Nat.le_refl 4) hkey).1
  · rw [if_neg henabled, List.append_nil]
    exact hbefore.1

theorem problems_eq_nil_iff {c : Config} : c.problems = [] ↔ c.IsSound := by
  simp only [List.eq_nil_iff_forall_not_mem, mem_problems_iff]
  constructor
  · intro h
    refine ⟨?_, fun htimeout => h _ (.timeout htimeout), fun enabled => ?_, fun enabled => ⟨?_, ?_⟩⟩
    · exact eq_true_of_ne_false fun haddress => h _ (.listener haddress)
    · exact eq_true_of_ne_false fun haddress => h _ (.metrics enabled haddress)
    · exact eq_true_of_ne_false fun haddress => h _ (.adminAddress enabled haddress)
    · exact eq_false_of_ne_true fun hblank => h _ (.adminKey enabled hblank)
  · rintro h p (hp | hp | ⟨enabled, hp⟩ | ⟨enabled, hp⟩ | ⟨enabled, hp⟩)
    · exact Bool.false_ne_true (hp.symm.trans h.listener)
    · exact h.timeout hp
    · exact Bool.false_ne_true (hp.symm.trans (h.metrics enabled))
    · exact Bool.false_ne_true (hp.symm.trans (h.admin enabled).1)
    · exact Bool.false_ne_true ((h.admin enabled).2.symm.trans hp)

/-! ## Loading -/

variable {text : String} {c : Config}

theorem ofText_of_parse (h : parse text = .ok c) :
    ofText text = if c.problems = [] then .ok c else .error (.invalid c.problems) := by
  unfold ofText
  rw [h]
  cases hproblems : c.problems <;> simp [hproblems]

theorem ofText_of_error {e : ConfigError} (h : parse text = .error e) : ofText text = .error e := by
  unfold ofText
  rw [h]

/-- A document is loaded if its settings are sound. -/
theorem ofText_eq_ok_iff (h : parse text = .ok c) : ofText text = .ok c ↔ c.IsSound := by
  rw [ofText_of_parse h, ← problems_eq_nil_iff]
  by_cases hproblems : c.problems = [] <;> simp [hproblems]

theorem load_of_text {bytes : ByteArray} (h : String.fromUTF8? bytes = some text) :
    load (some bytes) = ofText text := by
  unfold load
  dsimp only
  rw [h]

end Config

end Detour
