import Detour.Config.Validate
import Detour.Proofs.Admin.Simulation
import Detour.Proofs.Http.Representation
import Detour.Proofs.Server.Run

/-!
# Keys that a request can hold

A checked configuration that turns the service on has a key that is not blank. A request can hold it
if it is written in visible characters of ASCII, blanks and tabs; no header brings any other key to
the service, and checking does not look for that (`Admin.accepted_key_opens`).
-/

namespace Detour

/-! ## Plain text -/

/-- What is read of a header value is plain. -/
theorem isPlainChar_of_textOf? {value : List UInt8} {text : String} (h : textOf? value = some text)
    {c : Char} (hc : c ∈ text.toList) : IsPlainChar c := by
  unfold textOf? at h
  split_ifs at h with hplain
  cases h
  rw [String.toList_ofList] at hc
  obtain ⟨b, hb, rfl⟩ := List.mem_map.mp hc
  have hbyte := isPlainByte_iff.mp (List.all_eq_true.mp hplain b hb)
  have hcode : (Char.ofNat b.toNat).toNat = b.toNat := by
    unfold Char.ofNat
    rw [dif_pos (.inl (by omega))]
    rfl
  unfold IsPlainChar
  rwa [hcode]

theorem isFieldValue_of_isPlainText {s : String} (h : isPlainText s = true) :
    isFieldValue s = true := by
  rw [isFieldValue, List.all_eq_true]
  intro c hc
  refine isFieldChar_iff.mpr fun b hb => isFieldByte_iff.mpr ?_
  have hplain := isPlainByte_iff.mp (isPlainChar_iff.mp (isPlainText_iff.mp h c hc) b hb)
  omega

/-- A configuration without problems that turns the service on has a key. -/
theorem Config.apiKey_ne_empty {c : Config} (henabled : c.admin.enabled = true)
    (haccepted : c.problems = []) : c.admin.apiKey ≠ "" := by
  intro hempty
  have hblank : isBlank c.admin.apiKey = true := by rw [hempty]; rfl
  simp [problems, henabled, hblank] at haccepted

namespace Admin

variable {key : String}

/-! ## Requests that pass -/

/-- The request is answered by the service and not refused. -/
def Passes (key : String) (r : Request) : Prop :=
  ∀ s, serve key s r = { perform s r with response := (perform s r).response.forMethod r.method }

theorem passes_iff {r : Request} : Passes key r ↔ HoldsKey key r := by
  constructor
  · intro h
    by_contra hkey
    have hstatus := congrArg (fun served => served.response.status) (h default)
    rw [serve_of_not_holdsKey hkey] at hstatus
    simp only [status_refusal, status_forMethod] at hstatus
    exact status_perform_ne default r hstatus.symm
  · exact fun h => serve_of_holdsKey h

/-- Every request passes that gives the value for its authorization. -/
def Opens (key value : String) : Prop :=
  ∀ r : Request, IsFirstValue r.headers "authorization" value → Passes key r

/-- A request with the value for its authorization. -/
def askWith (value : String) (h : isFieldValue value = true) : Incoming where
  request := ⟨"GET", .origin ⟨"/admin/status", none⟩, [("Authorization", value)], "", none⟩
  isBuilt := by
    refine ⟨"GET", "/admin/status", [("Authorization", value)], "", ?_⟩
    have hnames : isToken "GET" = true ∧ isToken "Authorization" = true := by decide
    have hlegal : (isToken "GET" && [("Authorization", value)].all fun h =>
        isToken h.1 && isFieldValue h.2) = true := by simp [hnames, h]
    rw [Request.build?, if_pos hlegal]
    rfl

theorem isFirstValue_askWith {value : String} (h : isFieldValue value = true) :
    IsFirstValue (askWith value h).request.headers "authorization" value :=
  ⟨[], "Authorization", [], rfl, by decide, List.forall_mem_nil _⟩

/-! ## Keys -/

/-- No request holds a key that is not plain. -/
theorem isPlainText_of_holdsKey {r : Request} (h : HoldsKey key r) : isPlainText key = true :=
  (isPlainText_bearer key).symm.trans h.isPlainText

theorem isPlainText_of_opens {value : String} (h : isFieldValue value = true)
    (hopens : Opens key value) : isPlainText key = true :=
  isPlainText_of_holdsKey (passes_iff.mp (hopens _ (isFirstValue_askWith h)))

/-- A plain key is held by the requests that give it behind the word `Bearer`. -/
theorem opens_of_isPlainText (hkey : key ≠ "") (hplain : isPlainText key = true) :
    Opens key ("Bearer " ++ key) := fun _ hfirst =>
  passes_iff.mpr (holdsKey_of_isFirstValue hkey hplain hfirst)

/-- No header reads as a key that is not plain. -/
theorem isPlainText_of_header {a : Arrival}
    (h : a.view.header "authorization" = some ("Bearer " ++ key)) : isPlainText key = true := by
  rw [a.header_view] at h
  obtain ⟨value, -, htext⟩ := Option.bind_eq_some_iff.mp h
  rw [← isPlainText_bearer, isPlainText_iff]
  exact fun c hc => isPlainChar_of_textOf? htext hc

/-- **Accepted keys.** If a configuration that turns the service on has no problems, then some legal
header value opens the service exactly if every character of the key is a visible character of ASCII,
a blank or a tab. Behind the word `Bearer` such a key is that value, and requests with it come in.
Any other key is accepted too, but every request is refused then and leaves the rules alone, and no
bytes in a header are read as the key. -/
theorem accepted_key_opens {c : Config} (henabled : c.admin.enabled = true)
    (haccepted : c.problems = []) :
    let key := c.admin.apiKey
    ((∃ value, isFieldValue value = true ∧ Opens key value) ↔
      ∀ letter ∈ key.toList, IsPlainChar letter) ∧
    ((∀ letter ∈ key.toList, IsPlainChar letter) →
      isFieldValue ("Bearer " ++ key) = true ∧ Opens key ("Bearer " ++ key) ∧
      ∃ r : Incoming, IsFirstValue r.request.headers "authorization" ("Bearer " ++ key) ∧
        Passes key r.request) ∧
    ((∃ letter ∈ key.toList, ¬ IsPlainChar letter) →
      (∀ s r, (serve key s r).response.status = 401 ∧ (serve key s r).store = s) ∧
      ∀ a : Arrival, a.view.header "authorization" ≠ some ("Bearer " ++ key)) := by
  intro key
  have hkey : key ≠ "" := Config.apiKey_ne_empty henabled haccepted
  simp only [← isPlainText_iff]
  have hbearer (hplain : isPlainText key = true) : isFieldValue ("Bearer " ++ key) = true :=
    isFieldValue_of_isPlainText ((isPlainText_bearer key).trans hplain)
  refine ⟨⟨?_, fun hplain => ?_⟩, fun hplain => ?_, fun hother => ?_⟩
  · rintro ⟨value, hvalue, hopens⟩
    exact isPlainText_of_opens hvalue hopens
  · exact ⟨_, hbearer hplain, opens_of_isPlainText hkey hplain⟩
  · have hopens := opens_of_isPlainText hkey hplain
    have hfirst := isFirstValue_askWith (hbearer hplain)
    exact ⟨hbearer hplain, hopens, _, hfirst, hopens _ hfirst⟩
  · have hplain : isPlainText key ≠ true := by
      rw [Ne, isPlainText_iff]
      simpa using hother
    refine ⟨fun s r => ?_, fun a ha => hplain (isPlainText_of_header ha)⟩
    rw [serve_of_not_holdsKey fun h => hplain (isPlainText_of_holdsKey h)]
    exact ⟨status_refusal r, rfl⟩

/-! ## Two keys -/

/-- The configuration that turns the service on with the given key. -/
def withKey (key : String) : Config := { admin := { enabled := true, apiKey := key } }

/-- The key `k` is accepted and opens the service. -/
theorem accepted_key_opens_k :
    (withKey "k").admin.enabled = true ∧ (withKey "k").problems = [] ∧
      (∀ letter ∈ "k".toList, IsPlainChar letter) ∧
      isFieldValue "Bearer k" = true ∧ Opens "k" "Bearer k" := by
  have haccepted : (withKey "k").problems = [] := by decide +kernel
  have hplain : ∀ letter ∈ "k".toList, IsPlainChar letter := isPlainText_iff.mp (by decide)
  obtain ⟨hvalue, hopens, -⟩ := (accepted_key_opens rfl haccepted).2.1 hplain
  exact ⟨rfl, haccepted, hplain, hvalue, hopens⟩

/-- A key beyond ASCII is accepted, and no request with it passes. -/
theorem not_every_accepted_key_opens :
    ¬ ∀ c : Config, c.admin.enabled = true → c.problems = [] →
      ∃ value, isFieldValue value = true ∧
        ∃ r : Request, IsFirstValue r.headers "authorization" value ∧ Passes c.admin.apiKey r := by
  intro hall
  obtain ⟨_, _, r, _, hpasses⟩ := hall (withKey "é") rfl (by decide +kernel)
  have hplain : isPlainText "é" = true := isPlainText_of_holdsKey (passes_iff.mp hpasses)
  exact absurd hplain (by decide)

end Admin

end Detour
