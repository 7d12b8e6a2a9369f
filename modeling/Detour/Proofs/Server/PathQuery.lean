import Detour.Proofs.Http.Representation
import Detour.Proofs.Rule.Attribute
import Detour.Proofs.Server.Location

/-!
# Path and query of an address

Conditions divide the text of an address at its first question mark, while services look at the
parts of the address. Both see the same query, and the same path unless none is written: an address
gives a slash for an empty path, and its text does so only if there is no query either
(`path_and_query_read`).
-/

namespace Detour

/-! ## What is written -/

namespace PathAndQuery

/-- The path that the text shows: a slash for nothing, but none before a query. -/
def shownPath (t : PathAndQuery) : String := if t.isBlank then "/" else t.path

variable {t : PathAndQuery}

theorem isBlank_iff : t.isBlank = true ↔ t = ⟨"", none⟩ := by
  obtain ⟨path, query⟩ := t
  simp [isBlank]

theorem text_eq (t : PathAndQuery) :
    t.text = t.shownPath ++ (t.query.map ("?" ++ ·)).getD "" := by
  unfold text shownPath querySuffix
  by_cases h : t.isBlank = true
  · rw [if_pos h, if_pos h, isBlank_iff.mp h]
    rfl
  · rw [if_neg h, if_neg h]
    cases t.query with
    | none => rfl
    | some q => rfl

theorem not_mem_path (h : t.IsLegal) : '?' ∉ t.path.toList := by
  intro hmark
  exact absurd (h.path '?' hmark) (by decide)

theorem divides_text (h : t.IsLegal) : Divides t.text t.shownPath t.query := by
  refine ⟨?_, t.text_eq⟩
  unfold shownPath
  split
  · decide
  · exact not_mem_path h

/-- A path that is written is shown, and nothing else stands for it. -/
theorem shownPath_of_ne (h : t.path ≠ "") : t.shownPath = t.path ∧ t.fullPath = t.path := by
  have hblank : t.isBlank ≠ true := fun hblank => h (by rw [isBlank_iff.mp hblank])
  have hempty : t.path.isEmpty ≠ true := fun hempty => h (String.isEmpty_iff.mp hempty)
  exact ⟨if_neg hblank, if_neg hempty⟩

/-- What begins with a slash has a path. -/
theorem path_ne_of_ofChars? {rest : List Char} (h : ofChars? ('/' :: rest) = some t) :
    t.path ≠ "" := by
  unfold ofChars? at h
  rw [List.takeWhile_cons_of_pos (by decide), splitOnce, if_neg (by decide)] at h
  dsimp only at h
  split_ifs at h
  cases h
  exact fun hpath => by simpa using congrArg String.toList hpath

end PathAndQuery

/-! ## Addresses of requests -/

namespace Uri

/-- The path that the text of the address shows. -/
def shownPath : Uri → String
  | origin t => t.shownPath
  | absolute _ _ t => t.shownPath
  | authority _ => ""

theorem divides_url {uri : Uri} (h : uri.IsLegal) : Divides uri.url uri.shownPath uri.query := by
  cases uri with
  | origin t => exact PathAndQuery.divides_text h
  | absolute scheme name t => exact PathAndQuery.divides_text h
  | authority name => exact ⟨List.not_mem_nil, rfl⟩

/-- An address that requests may have: it is read from a text, or put together from parts whose
target is read from one. -/
inductive IsAccepted : Uri → Prop
  | read {text : String} {uri : Uri} (h : parse? text = some uri) : IsAccepted uri
  | joined {parts : UriParts} {uri : Uri}
    (htarget : ∀ t, parts.target = some t → ∃ text, PathAndQuery.parse? text = some t)
    (h : parts.toUri? = some uri) : IsAccepted uri

theorem IsAccepted.isLegal {uri : Uri} (h : uri.IsAccepted) : uri.IsLegal := by
  cases h with
  | read h => exact isLegal_of_parse? h
  | @joined parts _ htarget h =>
    have hlegal : ∀ t, parts.target = some t → t.IsLegal := by
      intro t ht
      obtain ⟨text, htext⟩ := htarget t ht
      exact PathAndQuery.isLegal_of_parse? htext
    obtain ⟨scheme, name, target⟩ := parts
    cases scheme <;> cases name <;> cases target <;> cases h
    · exact ⟨fun c hc => (List.not_mem_nil hc).elim, nofun⟩
    · exact hlegal _ rfl
    · trivial
    · exact hlegal _ rfl

/-- An address that is read has a path, or else a scheme and an authority, or an authority alone. -/
theorem form_of_parse? {text : String} {uri : Uri} (h : parse? text = some uri) :
    (∃ t, uri = origin t ∧ t.path ≠ "") ∨ (∃ scheme name t, uri = absolute scheme name t) ∨
      ∃ name, uri = authority name := by
  unfold parse? at h
  split_ifs at h
  split at h
  · cases h
  · cases h
    exact .inl ⟨_, rfl, by decide⟩
  · obtain ⟨t, ht, rfl⟩ := Option.map_eq_some_iff.mp h
    exact .inl ⟨t, rfl, PathAndQuery.path_ne_of_ofChars? ht⟩
  · unfold ofFull? at h
    split at h
    · cases h
    · dsimp only at h
      split at h
      · cases h
      · split at h
        · split_ifs at h
          cases h
          exact .inr (.inr ⟨_, rfl⟩)
        · obtain ⟨t, -, rfl⟩ := Option.map_eq_some_iff.mp h
          exact .inr (.inl ⟨_, _, t, rfl⟩)

/-- The address has a query, and no path is written before it. -/
def IsBareQuery (uri : Uri) : Prop := ∃ query, uri.parts.target = some ⟨"", some query⟩

/-- The address has no parts at all. -/
def IsBlank (uri : Uri) : Prop := uri.parts = ⟨none, none, none⟩

/-- Where a path is written, or there is no place for one, the text shows the path. -/
theorem shownPath_eq_path {uri : Uri} (hbare : ¬ uri.IsBareQuery) (hblank : ¬ uri.IsBlank) :
    uri.shownPath = uri.path := by
  have hpath : ∀ t : PathAndQuery, t.isBlank ≠ true → uri.parts.target = some t → t.path ≠ "" := by
    rintro ⟨path, query⟩ ht htarget (rfl : path = "")
    cases query with
    | none => exact ht rfl
    | some q => exact hbare ⟨q, htarget⟩
  cases uri with
  | origin t =>
    by_cases ht : t.isBlank = true
    · exact absurd (by simp [IsBlank, parts, ht]) hblank
    · obtain ⟨hshown, hfull⟩ := PathAndQuery.shownPath_of_ne (hpath t ht (if_neg ht))
      show t.shownPath = if t.isBlank then "" else t.fullPath
      rw [if_neg ht, hshown, hfull]
  | absolute scheme name t =>
    by_cases ht : t.isBlank = true
    · rw [PathAndQuery.isBlank_iff.mp ht]
      rfl
    · obtain ⟨hshown, hfull⟩ := PathAndQuery.shownPath_of_ne (hpath t ht rfl)
      exact hshown.trans hfull.symm
  | authority name => rfl

theorem path_of_isBareQuery {uri : Uri} (h : uri.IsBareQuery) :
    uri.shownPath = "" ∧ uri.path = "/" := by
  obtain ⟨query, hquery⟩ := h
  cases uri with
  | origin t =>
    unfold parts at hquery
    dsimp only at hquery
    split_ifs at hquery
    cases hquery
    exact ⟨rfl, rfl⟩
  | absolute scheme name t =>
    cases hquery
    exact ⟨rfl, rfl⟩
  | authority name => cases hquery

theorem path_of_isBlank {uri : Uri} (h : uri.IsBlank) : uri.shownPath = "/" ∧ uri.path = "" := by
  cases uri with
  | origin t =>
    have hblank : t.isBlank = true := by
      by_contra ht
      simp [IsBlank, parts, ht] at h
    rw [PathAndQuery.isBlank_iff.mp hblank]
    exact ⟨rfl, rfl⟩
  | absolute scheme name t => cases h
  | authority name => cases h

end Uri

/-! ## What conditions read -/

theorem RequestView.reads_iff {v : RequestView} {path : String} {query : Option String} :
    v.value? "path" = some path ∧ v.value? "query" = query ↔ Divides v.url path query := by
  have hpath : v.value? "path" = some v.path := rfl
  have hquery : v.value? "query" = v.query? := rfl
  rw [divides_iff, hpath, hquery, Option.some.injEq, eq_comm, @eq_comm _ v.query?]

/-- **Path and query.** Every request has a path for conditions. It has no question mark, and
together with a question mark and the query, if there is one, it makes the address; nothing else
divides the address in that way. The query is that of the address itself, and so is the path where
one is written. Before a query an empty path stays empty for conditions, and an address of no parts
shows a slash. Of the addresses that are read from a text only those with scheme and authority may
lack a path. -/
theorem path_and_query_read :
    (∀ v : RequestView, v.value? "url" = some v.url ∧ (v.value? "path").isSome = true ∧
      ∀ path query, v.value? "path" = some path ∧ v.value? "query" = query ↔
        '?' ∉ path.toList ∧ v.url = path ++ (query.map ("?" ++ ·)).getD "") ∧
    (∀ a : Arrival, a.uri.IsAccepted →
      a.view.value? "query" = a.uri.query ∧
      (¬ a.uri.IsBareQuery → ¬ a.uri.IsBlank → a.view.value? "path" = some a.uri.path) ∧
      (a.uri.IsBareQuery → a.view.value? "path" = some "" ∧ a.uri.path = "/") ∧
      (a.uri.IsBlank → a.view.value? "path" = some "/" ∧ a.uri.path = "")) ∧
    (∀ text uri, Uri.parse? text = some uri → uri.IsAccepted ∧ ¬ uri.IsBlank ∧
      (uri.IsBareQuery → ∃ scheme name query,
        uri = .absolute scheme name ⟨"", some query⟩)) ∧
    ∀ (r r' : Request) (text : String), r.rerouted? text = some r' → r'.uri.IsAccepted := by
  refine ⟨fun v => ⟨rfl, rfl, fun path query => RequestView.reads_iff⟩, fun a ha => ?_,
    fun text uri h => ⟨.read h, ?_⟩, fun r r' text h => ?_⟩
  · obtain ⟨hpath, hquery⟩ := RequestView.reads_iff.mpr
      (show Divides a.view.url _ _ from Uri.divides_url ha.isLegal)
    rw [hpath, hquery, Option.some.injEq, Option.some.injEq, Option.some.injEq]
    exact ⟨rfl, Uri.shownPath_eq_path, Uri.path_of_isBareQuery, Uri.path_of_isBlank⟩
  · obtain ⟨t, rfl, ht⟩ | ⟨scheme, name, t, rfl⟩ | ⟨name, rfl⟩ := Uri.form_of_parse? h
    · have hblank : t.isBlank ≠ true := fun hblank =>
        ht (by rw [PathAndQuery.isBlank_iff.mp hblank])
      have htarget : (Uri.origin t).parts.target = some t := if_neg hblank
      refine ⟨fun hnone => ?_, fun ⟨query, hquery⟩ => ?_⟩
      · rw [hnone] at htarget
        cases htarget
      · rw [htarget] at hquery
        cases hquery
        exact absurd rfl ht
    · refine ⟨nofun, fun ⟨query, hquery⟩ => ?_⟩
      cases hquery
      exact ⟨scheme, name, query, rfl⟩
    · exact ⟨nofun, nofun⟩
  · obtain ⟨target, uri, htarget, huri, rfl⟩ := rerouted?_eq_some_iff.mp h
    refine .joined (fun t ht => ⟨text, ?_⟩) huri
    obtain rfl : target = t := Option.some.inj ht
    exact htarget

/-- Conditions need not see the path of an address: where a query follows the authority they see
none, and the address has a slash. -/
theorem not_every_path_read :
    ¬ ∀ (text : String) (a : Arrival), Uri.parse? text = some a.uri →
      a.view.value? "path" = some a.uri.path := by
  intro hall
  have hpath := hall "http://h?q" ⟨"GET", .absolute "http" "h" ⟨"", some "q"⟩, [], nofun⟩
    (by decide +kernel)
  exact absurd hpath (by decide)

end Detour
