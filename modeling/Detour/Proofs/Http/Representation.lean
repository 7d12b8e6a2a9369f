import Detour.Proofs.Http.Parts
import Detour.Proofs.Rule.FirstMatch

/-!
# Two forms of a request

A request arrives with headers whose values are any bytes, and several of them may have one name.
Written out by its parts it has the first value under each name, where that can be read as text.
Rules see no difference between the two (`rules_see_parts`).
-/

namespace Detour

/-! ## Names without regard to case -/

theorem sameIgnoringCase_iff {s t : String} :
    sameIgnoringCase s t = true ↔ asciiLower s = asciiLower t := by
  rw [sameIgnoringCase, decide_eq_true_eq]

theorem sameIgnoringCase_comm (s t : String) : sameIgnoringCase s t = sameIgnoringCase t s := by
  unfold sameIgnoringCase
  exact decide_eq_decide.mpr eq_comm

theorem sameIgnoringCase_congr {s t : String} (h : sameIgnoringCase s t = true) (u : String) :
    sameIgnoringCase u s = sameIgnoringCase u t := by
  unfold sameIgnoringCase
  rw [sameIgnoringCase_iff.mp h]

theorem isTokenChar_toLower (c : Char) : isTokenChar c.toLower = isTokenChar c := by
  have hletters : ∀ n < 26, isTokenChar (Char.ofNat (65 + n)).toLower =
      isTokenChar (Char.ofNat (65 + n)) := by decide
  by_cases h : c.val ≥ 'A'.val ∧ c.val ≤ 'Z'.val
  · have hmin : 65 ≤ c.toNat := h.1
    have hmax : c.toNat ≤ 90 := h.2
    have hc : c = Char.ofNat (65 + (c.toNat - 65)) := by
      rw [Nat.add_sub_cancel' hmin, Char.ofNat_toNat]
    rw [hc]
    exact hletters _ (by omega)
  · rw [show c.toLower = c from dif_neg h]

theorem isToken_iff {s : String} :
    isToken s = true ↔ s.toList ≠ [] ∧ ∀ c ∈ s.toList, isTokenChar c = true := by
  simp [isToken]

theorem isToken_asciiLower (s : String) : isToken (asciiLower s) = isToken s := by
  rw [Bool.eq_iff_iff, isToken_iff, isToken_iff]
  simp [asciiLower, isTokenChar_toLower]

theorem isToken_congr {s t : String} (h : sameIgnoringCase s t = true) : isToken s = isToken t := by
  rw [← isToken_asciiLower s, sameIgnoringCase_iff.mp h, isToken_asciiLower]

/-! ## Bytes that can be read as text -/

/-- The byte is a visible character of ASCII, a blank or a tab. -/
def isPlainByte (b : UInt8) : Bool := b = 9 || (32 ≤ b && b < 127)

/-- The text of a header value, if all its bytes are plain. -/
def textOf? (value : List UInt8) : Option String :=
  if value.all isPlainByte then some (String.ofList (value.map fun b => Char.ofNat b.toNat))
  else none

/-- The bytes of a text. -/
def bytesOf (s : String) : List UInt8 := s.toUTF8.data.toList

/-- The character is written by one plain byte. -/
def IsPlainChar (c : Char) : Prop := c.toNat = 9 ∨ 32 ≤ c.toNat ∧ c.toNat < 127

theorem isPlainByte_iff {b : UInt8} :
    isPlainByte b = true ↔ b.toNat = 9 ∨ 32 ≤ b.toNat ∧ b.toNat < 127 := by
  unfold isPlainByte
  rw [Bool.or_eq_true, Bool.and_eq_true, decide_eq_true_eq, decide_eq_true_eq, decide_eq_true_eq,
    ← UInt8.toNat_inj, UInt8.le_iff_toNat_le, UInt8.lt_iff_toNat_lt]
  rfl

theorem isPlainText_iff {s : String} : isPlainText s = true ↔ ∀ c ∈ s.toList, IsPlainChar c := by
  have htab (c : Char) : c = '\t' ↔ c.toNat = 9 := Char.toNat_inj.symm
  simp [isPlainText, IsPlainChar, htab]

theorem bytesOf_eq (s : String) : bytesOf s = s.toList.flatMap String.utf8EncodeChar := by
  unfold bytesOf
  rw [String.toUTF8_eq_toByteArray, ← String.utf8Encode_toList]
  exact congrArg Array.toList List.data_toByteArray

theorem utf8EncodeChar_of_le {c : Char} (h : c.toNat ≤ 127) :
    String.utf8EncodeChar c = [UInt8.ofNat c.toNat] := if_pos h

theorem toNat_ofNat_of_le {n : ℕ} (h : n ≤ 127) : (UInt8.ofNat n).toNat = n := by
  rw [UInt8.toNat_ofNat']
  omega

theorem isPlainChar_iff {c : Char} :
    IsPlainChar c ↔ ∀ b ∈ String.utf8EncodeChar c, isPlainByte b = true := by
  unfold IsPlainChar
  by_cases h : c.toNat ≤ 127
  · rw [utf8EncodeChar_of_le h, List.forall_mem_singleton, isPlainByte_iff, toNat_ofNat_of_le h]
  · refine ⟨fun hplain => by omega, fun hall => ?_⟩
    obtain ⟨b, hb⟩ := List.exists_mem_of_ne_nil _ (String.utf8EncodeChar_ne_nil (c := c))
    have hmin := le_of_mem_utf8EncodeChar (Nat.lt_of_not_le h) hb
    have hplain := isPlainByte_iff.mp (hall b hb)
    omega

theorem all_isPlainByte_bytesOf (s : String) :
    (bytesOf s).all isPlainByte = isPlainText s := by
  rw [Bool.eq_iff_iff, isPlainText_iff, List.all_eq_true, bytesOf_eq]
  simp only [isPlainChar_iff, List.mem_flatMap]
  constructor
  · intro h c hc b hb
    exact h b ⟨c, hc, hb⟩
  · rintro h b ⟨c, hc, hb⟩
    exact h c hc b hb

theorem map_ofNat_bytesOf {s : String} (h : ∀ c ∈ s.toList, IsPlainChar c) :
    (bytesOf s).map (fun b => Char.ofNat b.toNat) = s.toList := by
  rw [bytesOf_eq]
  generalize s.toList = cs at h
  induction cs with
  | nil => rfl
  | cons c cs ih =>
    obtain ⟨hc, hcs⟩ := List.forall_mem_cons.mp h
    have hle : c.toNat ≤ 127 := by unfold IsPlainChar at hc; omega
    rw [List.flatMap_cons, utf8EncodeChar_of_le hle, List.map_append, ih hcs, List.map_singleton,
      toNat_ofNat_of_le hle, Char.ofNat_toNat, List.singleton_append]

/-- The bytes of a text are read as that text, if it is plain. -/
theorem textOf?_bytesOf (s : String) :
    textOf? (bytesOf s) = if isPlainText s then some s else none := by
  unfold textOf?
  rw [all_isPlainByte_bytesOf]
  by_cases h : isPlainText s = true
  · rw [if_pos h, if_pos h, map_ofNat_bytesOf (isPlainText_iff.mp h), String.ofList_toList]
  · rw [if_neg h, if_neg h]

/-! ## The first value under a name -/

section FirstValue

variable {β : Type}

/-- The first value under the name, in whatever case. -/
def firstUnder (headers : List (String × β)) (name : String) : Option β :=
  (headers.find? fun h => sameIgnoringCase h.1 name).map Prod.snd

variable {headers : List (String × β)} {name : String}

theorem firstUnder_congr {other : String} (h : sameIgnoringCase name other = true) :
    firstUnder headers name = firstUnder headers other := by
  unfold firstUnder
  simp only [sameIgnoringCase_congr h]

theorem firstUnder_eq_none_iff :
    firstUnder headers name = none ↔ ∀ h ∈ headers, sameIgnoringCase h.1 name = false := by
  simp [firstUnder]

theorem firstUnder_cons (h : String × β) (headers : List (String × β)) (name : String) :
    firstUnder (h :: headers) name =
      if sameIgnoringCase h.1 name then some h.2 else firstUnder headers name := by
  unfold firstUnder
  rw [List.find?_cons]
  split <;> simp [*]

theorem firstUnder_map {γ : Type} (f : β → γ) :
    firstUnder (headers.map fun h => (h.1, f h.2)) name = (firstUnder headers name).map f := by
  unfold firstUnder
  rw [List.find?_map, Option.map_map, Option.map_map]
  rfl

/-- The headers of other names. -/
def without (name : String) (headers : List (String × β)) : List (String × β) :=
  headers.filter fun h => !sameIgnoringCase h.1 name

theorem mem_without {h : String × β} :
    h ∈ without name headers ↔ h ∈ headers ∧ sameIgnoringCase h.1 name = false := by
  simp [without]

theorem length_without_le (name : String) (headers : List (String × β)) :
    (without name headers).length ≤ headers.length := List.length_filter_le ..

theorem firstUnder_without {other : String} (h : sameIgnoringCase other name = false) :
    firstUnder (without other headers) name = firstUnder headers name := by
  unfold firstUnder without
  rw [List.find?_filter]
  congr 2
  funext g
  by_cases hg : sameIgnoringCase g.1 name = true
  · have hother : sameIgnoringCase g.1 other = false := by
      rw [← h, sameIgnoringCase_comm g.1, sameIgnoringCase_congr hg]
    simp [hg, hother]
  · simp [hg]

end FirstValue

/-! ## Requests as they arrive -/

/-- A request as it arrives: the names of its headers are tokens, their values any bytes. -/
structure Arrival where
  method : String
  uri : Uri
  headers : List (String × List UInt8)
  isToken_of_mem : ∀ h ∈ headers, isToken h.1 = true

namespace Arrival

/-- What rules see of a request: the first value under a name, if it can be read as text. What is no
token names no header. -/
def view (a : Arrival) : RequestView :=
  ⟨a.method, a.uri.url, fun name =>
    (if isToken name then firstUnder a.headers name else none).bind textOf?⟩

theorem firstUnder_of_not_isToken (a : Arrival) {name : String} (h : isToken name ≠ true) :
    firstUnder a.headers name = none := by
  rw [firstUnder_eq_none_iff]
  intro g hg
  by_contra hsame
  rw [Bool.not_eq_false] at hsame
  exact h ((isToken_congr hsame).symm.trans (a.isToken_of_mem g hg))

theorem header_view (a : Arrival) (name : String) :
    a.view.header name = (firstUnder a.headers name).bind textOf? := by
  show (if isToken name then firstUnder a.headers name else none).bind textOf? = _
  split
  · rfl
  · rw [a.firstUnder_of_not_isToken ‹_›]

end Arrival

namespace Request

variable (r : Request) (names : ∀ h ∈ r.headers, isToken h.1 = true)

/-- How a request of the server arrives: the values of its headers are the bytes of texts. -/
def arrival : Arrival where
  method := r.method
  uri := r.uri
  headers := r.headers.map fun h => (h.1, bytesOf h.2)
  isToken_of_mem := by
    intro h hh
    obtain ⟨g, hg, rfl⟩ := List.mem_map.mp hh
    exact names g hg

theorem view_arrival : (r.arrival names).view = r.view := by
  refine congrArg (RequestView.mk r.method r.uri.url) (funext fun name => ?_)
  show (if isToken name then firstUnder (r.headers.map fun h => (h.1, bytesOf h.2)) name
    else none).bind textOf? = (r.header? name).filter isPlainText
  unfold header?
  split
  · rw [firstUnder_map]
    unfold firstUnder
    cases (r.headers.find? fun h => sameIgnoringCase h.1 name).map Prod.snd with
    | none => rfl
    | some value =>
      simp only [Option.map_some, Option.bind_some, textOf?_bytesOf, Option.filter_some]
  · rfl

end Request

/-! ## Requests written out -/

/-- The parts write the request out: they have the text of the first value under each name, and no
other header. A name whose first value is no text is left out. -/
structure RequestParts.WritesOut (p : RequestParts) (a : Arrival) : Prop where
  method : p.method = a.method
  url : p.url = a.uri.url
  sound : ∀ h ∈ p.headers, (firstUnder a.headers h.1).bind textOf? = some h.2
  complete : ∀ name, ((firstUnder a.headers name).bind textOf?).isSome = true →
    ∃ h ∈ p.headers, sameIgnoringCase h.1 name = true

theorem RequestParts.header_view (p : RequestParts) (name : String) :
    p.view.header name = firstUnder p.headers name := rfl

/-- Both forms have the same headers for the rules. -/
theorem RequestParts.WritesOut.firstUnder_eq {p : RequestParts} {a : Arrival} (h : p.WritesOut a)
    (name : String) : firstUnder p.headers name = (firstUnder a.headers name).bind textOf? := by
  cases hp : firstUnder p.headers name with
  | some text =>
    obtain ⟨g, hfind, rfl⟩ := Option.map_eq_some_iff.mp hp
    have hsame : sameIgnoringCase g.1 name = true := by
      simpa using List.find?_some hfind
    rw [← h.sound g (List.mem_of_find?_eq_some hfind), firstUnder_congr hsame]
  | none =>
    -- a value that can be read would be among the parts
    refine (Option.not_isSome_iff_eq_none.mp fun hsome => ?_).symm
    obtain ⟨g, hg, hsame⟩ := h.complete name hsome
    have hother := firstUnder_eq_none_iff.mp hp g hg
    rw [hsame] at hother
    cases hother

/-- Rules see the same of both forms. -/
theorem RequestParts.WritesOut.view_eq {p : RequestParts} {a : Arrival} (h : p.WritesOut a) :
    p.view = a.view := by
  have hheader : p.header? = a.view.header := by
    funext name
    rw [a.header_view]
    exact h.firstUnder_eq name
  unfold RequestParts.view
  rw [h.method, h.url, hheader]
  rfl

/-! ### The parts of an arriving request -/

/-- The text of the first value under each name, where it can be read. -/
def plainHeaders : List (String × List UInt8) → List (String × String)
  | [] => []
  | (name, value) :: rest =>
    ((textOf? value).map fun text => (name, text)).toList ++
      plainHeaders (without name rest)
termination_by headers => headers.length
decreasing_by exact Nat.lt_succ_of_le (length_without_le name rest)

/-- The parts of a request. -/
def Arrival.parts (a : Arrival) : RequestParts := ⟨a.method, a.uri.url, plainHeaders a.headers⟩

section PlainHeaders

variable {headers : List (String × List UInt8)} {h : String × String}

theorem exists_name_of_mem_plainHeaders (hh : h ∈ plainHeaders headers) :
    ∃ g ∈ headers, g.1 = h.1 := by
  induction headers using plainHeaders.induct with
  | case1 => simp [plainHeaders] at hh
  | case2 name value rest ih =>
    rw [plainHeaders, List.mem_append] at hh
    rcases hh with hh | hh
    · obtain ⟨text, -, rfl⟩ := by simpa using hh
      exact ⟨_, List.mem_cons_self, rfl⟩
    · obtain ⟨g, hg, hname⟩ := ih hh
      exact ⟨g, List.mem_cons_of_mem _ (mem_without.mp hg).1, hname⟩

theorem not_same_of_mem_plainHeaders {name : String}
    (hh : h ∈ plainHeaders (without name headers)) : sameIgnoringCase h.1 name = false := by
  obtain ⟨g, hg, hname⟩ := exists_name_of_mem_plainHeaders hh
  rw [← hname]
  exact (mem_without.mp hg).2

theorem firstUnder_of_mem_plainHeaders (hh : h ∈ plainHeaders headers) :
    (firstUnder headers h.1).bind textOf? = some h.2 := by
  induction headers using plainHeaders.induct with
  | case1 => simp [plainHeaders] at hh
  | case2 name value rest ih =>
    rw [plainHeaders, List.mem_append] at hh
    rcases hh with hh | hh
    · obtain ⟨text, htext, rfl⟩ := by simpa using hh
      rw [firstUnder_cons, if_pos (sameIgnoringCase_iff.mpr rfl)]
      exact htext
    · have hother := not_same_of_mem_plainHeaders hh
      rw [sameIgnoringCase_comm] at hother
      rw [firstUnder_cons, if_neg (by simp [hother]), ← firstUnder_without hother]
      exact ih hh

theorem exists_mem_plainHeaders {name : String}
    (hsome : ((firstUnder headers name).bind textOf?).isSome = true) :
    ∃ h ∈ plainHeaders headers, sameIgnoringCase h.1 name = true := by
  induction headers using plainHeaders.induct with
  | case1 => simp [firstUnder] at hsome
  | case2 first value rest ih =>
    rw [firstUnder_cons] at hsome
    rw [plainHeaders]
    cases hsame : sameIgnoringCase first name with
    | true =>
      rw [hsame, if_pos rfl, Option.bind_some] at hsome
      obtain ⟨text, htext⟩ := Option.isSome_iff_exists.mp hsome
      exact ⟨(first, text), by simp [htext], hsame⟩
    | false =>
      rw [hsame, if_neg Bool.false_ne_true, ← firstUnder_without hsame] at hsome
      obtain ⟨h, hh, hname⟩ := ih hsome
      exact ⟨h, List.mem_append_right _ hh, hname⟩

/-- No name is given twice. -/
theorem pairwise_plainHeaders (headers : List (String × List UInt8)) :
    (plainHeaders headers).Pairwise fun g h => sameIgnoringCase g.1 h.1 = false := by
  induction headers using plainHeaders.induct with
  | case1 => simp [plainHeaders]
  | case2 name value rest ih =>
    rw [plainHeaders, List.pairwise_append]
    refine ⟨?_, ih, ?_⟩
    · cases textOf? value <;> simp
    · intro g hg h hh
      obtain ⟨text, -, rfl⟩ := by simpa using hg
      rw [sameIgnoringCase_comm]
      exact not_same_of_mem_plainHeaders hh

end PlainHeaders

theorem Arrival.writesOut_parts (a : Arrival) : a.parts.WritesOut a where
  method := rfl
  url := rfl
  sound _ hh := firstUnder_of_mem_plainHeaders hh
  complete _ hsome := exists_mem_plainHeaders hsome

/-- **Two forms.** A request is written out by its parts, which give no name twice. Whatever parts
write it out, in whatever order and case of letters: every list of rules makes the same of both and
reports the same, every condition holds for both or for neither, and a header has the same value in
both, be it looked up with hyphens, as it is named, or by one after the other. What the server sees
of a request is what it sees of its bytes. -/
theorem rules_see_parts (a : Arrival) :
    (a.parts.WritesOut a ∧
      a.parts.headers.Pairwise fun g h => sameIgnoringCase g.1 h.1 = false) ∧
    (∀ p : RequestParts, p.WritesOut a →
      (∀ rules, dispatch rules p.view = dispatch rules a.view ∧
        matchReports rules p.view = matchReports rules a.view) ∧
      (∀ c : Condition, c.holds p.view = c.holds a.view) ∧
      ∀ name, p.view.header (RequestView.dashed name) = a.view.header (RequestView.dashed name) ∧
        p.view.header name = a.view.header name ∧ p.view.value? name = a.view.value? name) ∧
    ∀ (r : Request) (names : ∀ h ∈ r.headers, isToken h.1 = true),
      r.arrival names = a → r.view = a.view := by
  refine ⟨⟨a.writesOut_parts, pairwise_plainHeaders a.headers⟩, fun p hp => ?_, ?_⟩
  · rw [hp.view_eq]
    exact ⟨fun _ => ⟨rfl, rfl⟩, fun _ => rfl, fun _ => ⟨rfl, rfl, rfl⟩⟩
  · rintro r names rfl
    exact (r.view_arrival names).symm

end Detour
