import Detour.Rule.Request

/-!
# Attributes of a request

What a condition may name: the method, the address, its path and its query, and otherwise a header,
whose hyphens may be written as underscores. `RequestView.value?` finds the attribute of a name if
the request has one (`RequestView.hasAttribute_iff`).
-/

namespace Detour

/-! ## Parting a text -/

variable {sep : Char}

theorem splitOnce_of_not_mem {cs : List Char} (h : sep ∉ cs) : splitOnce sep cs = (cs, none) := by
  induction cs with
  | nil => rfl
  | cons c cs ih =>
    have hc : c ≠ sep := fun hc => h (hc ▸ List.mem_cons_self)
    have hcs : sep ∉ cs := fun hcs => h (List.mem_cons_of_mem c hcs)
    simp [splitOnce, hc, ih hcs]

theorem splitOnce_append {before : List Char} (h : sep ∉ before) (after : List Char) :
    splitOnce sep (before ++ sep :: after) = (before, some after) := by
  induction before with
  | nil => simp [splitOnce]
  | cons c cs ih =>
    have hc : c ≠ sep := fun hc => h (hc ▸ List.mem_cons_self)
    have hcs : sep ∉ cs := fun hcs => h (List.mem_cons_of_mem c hcs)
    simp [splitOnce, hc, ih hcs]

/-- A text is what stands before its first separator, or that with the separator and the rest. -/
theorem splitOnce_spec (sep : Char) (cs : List Char) :
    sep ∉ (splitOnce sep cs).1 ∧
      cs = (splitOnce sep cs).1 ++ ((splitOnce sep cs).2.map (sep :: ·)).getD [] := by
  induction cs with
  | nil => simp [splitOnce]
  | cons c cs ih =>
    by_cases hc : c = sep
    · simp [splitOnce, hc]
    · obtain ⟨hbefore, htext⟩ := ih
      refine ⟨?_, ?_⟩
      · simp [splitOnce, hc, hbefore, Ne.symm hc]
      · simpa [splitOnce, hc] using htext

/-! ## Headers -/

/-- The headers give the value under the name, in whatever case, and before any other. -/
def IsFirstValue (headers : List (String × String)) (name value : String) : Prop :=
  ∃ before given later, headers = before ++ (given, value) :: later ∧
    sameIgnoringCase given name = true ∧ ∀ h ∈ before, sameIgnoringCase h.1 name = false

theorem isFirstValue_iff {headers : List (String × String)} {name value : String} :
    IsFirstValue headers name value ↔
      (headers.find? fun h => sameIgnoringCase h.1 name).map Prod.snd = some value := by
  unfold IsFirstValue
  rw [Option.map_eq_some_iff]
  constructor
  · rintro ⟨before, given, later, rfl, hgiven, hbefore⟩
    refine ⟨(given, value), List.find?_eq_some_iff_append.mpr ⟨hgiven, before, later, rfl, ?_⟩, rfl⟩
    simpa using hbefore
  · rintro ⟨⟨given, value⟩, hfind, rfl⟩
    obtain ⟨hgiven, before, later, hheaders, hbefore⟩ := List.find?_eq_some_iff_append.mp hfind
    exact ⟨before, given, later, hheaders, hgiven, by simpa using hbefore⟩

/-! ## Path and query -/

/-- The address is the path, and a question mark and the query if there is one. -/
def Divides (url path : String) (query : Option String) : Prop :=
  '?' ∉ path.toList ∧ url = path ++ (query.map ("?" ++ ·)).getD ""

namespace RequestView

variable {v : RequestView}

theorem divides_iff {path : String} {query : Option String} :
    Divides v.url path query ↔ path = v.path ∧ query = v.query? := by
  unfold Divides RequestView.path query?
  constructor
  · rintro ⟨hpath, hurl⟩
    cases query with
    | none =>
      have hsplit := splitOnce_of_not_mem hpath
      simp [hurl, hsplit]
    | some q =>
      have hsplit := splitOnce_append hpath q.toList
      simp [hurl, hsplit]
  · rintro ⟨rfl, rfl⟩
    obtain ⟨hpath, hurl⟩ := splitOnce_spec '?' v.url.toList
    refine ⟨by simpa using hpath, String.toList_inj.mp ?_⟩
    rw [String.toList_append, String.toList_ofList]
    refine hurl.trans (congrArg _ ?_)
    cases (splitOnce '?' v.url.toList).2 <;> simp

/-! ## Attributes -/

/-- The names that stand for parts of the request line. -/
def lineNames : List String := ["method", "url", "uri", "path", "query"]

/-- The request has the attribute of the given name, with the given value. A name that stands for a
part of the request line never means a header; the header with hyphens comes before that with
underscores. -/
inductive HasAttribute (v : RequestView) : String → String → Prop
  | method : HasAttribute v "method" v.method
  | url : HasAttribute v "url" v.url
  | uri : HasAttribute v "uri" v.url
  | path {path : String} {query : Option String} (h : Divides v.url path query) :
    HasAttribute v "path" path
  | query {path query : String} (h : Divides v.url path (some query)) : HasAttribute v "query" query
  | dashed {name value : String} (hname : name ∉ lineNames)
    (h : v.header (dashed name) = some value) : HasAttribute v name value
  | verbatim {name value : String} (hname : name ∉ lineNames)
    (hdashed : v.header (RequestView.dashed name) = none) (h : v.header name = some value) :
    HasAttribute v name value

theorem value?_of_not_mem_lineNames {name : String} (h : name ∉ lineNames) :
    v.value? name = (v.header (dashed name)).orElse fun _ => v.header name := by
  simp only [lineNames, List.mem_cons, List.not_mem_nil, or_false, not_or] at h
  obtain ⟨hmethod, hurl, huri, hpath, hquery⟩ := h
  unfold value?
  split <;> first | contradiction | rfl

theorem value?_of_hasAttribute {name value : String} (h : v.HasAttribute name value) :
    v.value? name = some value := by
  cases h with
  | method => rfl
  | url => rfl
  | uri => rfl
  | path h => exact congrArg some (divides_iff.mp h).1.symm
  | query h => exact (divides_iff.mp h).2.symm
  | dashed hname h => rw [value?_of_not_mem_lineNames hname, h, Option.orElse_some]
  | verbatim hname hdashed h =>
    rw [value?_of_not_mem_lineNames hname, hdashed, Option.orElse_none, h]

/-- A request has exactly the attributes that are found. -/
theorem hasAttribute_iff {name value : String} :
    v.HasAttribute name value ↔ v.value? name = some value := by
  refine ⟨value?_of_hasAttribute, fun h => ?_⟩
  have hdivides : Divides v.url v.path v.query? := divides_iff.mpr ⟨rfl, rfl⟩
  by_cases hname : name ∈ lineNames
  · simp only [lineNames, List.mem_cons, List.not_mem_nil, or_false] at hname
    rcases hname with rfl | rfl | rfl | rfl | rfl
    · cases h
      exact .method
    · cases h
      exact .url
    · cases h
      exact .uri
    · cases h
      exact .path hdivides
    · have hquery : v.query? = some value := h
      exact .query (hquery ▸ hdivides)
  · rw [value?_of_not_mem_lineNames hname] at h
    cases hheader : v.header (dashed name) with
    | some x =>
      rw [hheader] at h
      cases h
      exact .dashed hname hheader
    | none =>
      rw [hheader, Option.orElse_none] at h
      exact .verbatim hname hheader h

end RequestView

end Detour
