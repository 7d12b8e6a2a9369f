import Detour.Proofs.Http.Representation
import Detour.Proofs.Rule.Target
import Detour.Proofs.Server.Books
import Detour.Proofs.Server.Run

/-!
# Locations of clean redirects

Methods and addresses of requests are written in characters that a header value may hold too, and a
target has no others but those of its template. So a redirect whose template has no control but the
tab is never given up for its location (`clean_redirect_answers`).
-/

namespace Detour

/-! ## Characters of requests -/

/-- Controls other than the tab are kept out of header values, and nothing else is. -/
theorem isFieldChar_iff_not_control {c : Char} :
    isFieldChar c = true ↔ (c.toNat < 0x20 ∨ c.toNat = 0x7F → c = '\t') := by
  unfold isFieldChar
  rw [Bool.or_eq_true, Bool.and_eq_true, decide_eq_true_eq, decide_eq_true_eq, decide_eq_true_eq,
    or_iff_not_imp_right]
  have hcontrol : ¬ (0x20 ≤ c.toNat ∧ c.toNat ≠ 0x7F) ↔ c.toNat < 0x20 ∨ c.toNat = 0x7F := by omega
  rw [hcontrol]

theorem isFieldChar_of_le {c : Char} (hmin : 0x20 ≤ c.toNat) (h : c.toNat ≠ 0x7F) :
    isFieldChar c = true := isFieldChar_iff_not_control.mpr fun hc => by omega

/-- The digit zero is the first of the letters and digits, the letter z the last. -/
theorem bounds_of_isAlphanum {c : Char} (h : c.isAlphanum = true) :
    '0'.toNat ≤ c.toNat ∧ c.toNat ≤ 'z'.toNat := by
  obtain hletter | hdigit := Bool.or_eq_true_iff.mp h
  · obtain hupper | hlower := Bool.or_eq_true_iff.mp hletter
    · obtain ⟨hmin, hmax⟩ : 'A'.toNat ≤ c.toNat ∧ c.toNat ≤ 'Z'.toNat := of_decide_eq_true hupper
      exact ⟨Nat.le_trans (by decide) hmin, Nat.le_trans hmax (by decide)⟩
    · obtain ⟨hmin, hmax⟩ := Bool.and_eq_true_iff.mp hlower
      exact ⟨Nat.le_trans (by decide) (of_decide_eq_true hmin), of_decide_eq_true hmax⟩
  · obtain ⟨hmin, hmax⟩ := Char.isDigit_iff_toNat.mp hdigit
    exact ⟨hmin, Nat.le_trans hmax (by decide)⟩

theorem isFieldChar_of_isAlphanum {c : Char} (h : c.isAlphanum = true) : isFieldChar c = true := by
  obtain ⟨hmin, hmax⟩ := bounds_of_isAlphanum h
  have hblank : 0x20 ≤ '0'.toNat := by decide
  have hdelete : 'z'.toNat < 0x7F := by decide
  exact isFieldChar_of_le (by omega) (by omega)

theorem isFieldChar_of_isTokenChar {c : Char} (h : isTokenChar c = true) :
    isFieldChar c = true := by
  have hsigns : "!#$%&'*+-.^_\x60|~".toList.all isFieldChar = true := by decide
  obtain h | h := Bool.or_eq_true_iff.mp h
  · exact isFieldChar_of_isAlphanum h
  · exact List.all_eq_true.mp hsigns c (List.contains_iff_mem.mp h)

namespace PathAndQuery

theorem isFieldChar_of_isPathChar {c : Char} (h : isPathChar c = true) : isFieldChar c = true := by
  simp only [isPathChar, Bool.or_eq_true, Bool.and_eq_true, decide_eq_true_eq] at h
  exact isFieldChar_of_le (by omega) (by omega)

theorem isFieldChar_of_isQueryChar {c : Char} (h : isQueryChar c = true) :
    isFieldChar c = true := by
  simp only [isQueryChar, Bool.or_eq_true, Bool.and_eq_true, decide_eq_true_eq] at h
  exact isFieldChar_of_le (by omega) (by omega)

/-- Every character of the path and of the query may stand where it does. -/
structure IsLegal (p : PathAndQuery) : Prop where
  path : ∀ c ∈ p.path.toList, isPathChar c = true
  query : ∀ q, p.query = some q → ∀ c ∈ q.toList, isQueryChar c = true

theorem isLegal_of_ofChars? {cs : List Char} {p : PathAndQuery} (h : ofChars? cs = some p) :
    p.IsLegal := by
  unfold ofChars? at h
  generalize splitOnce '?' (cs.takeWhile (· ≠ '#')) = parts at h
  obtain ⟨path, query⟩ := parts
  simp only [Option.ite_none_right_eq_some, Bool.and_eq_true, List.all_eq_true,
    Option.some.injEq] at h
  obtain ⟨⟨hpath, hquery⟩, rfl⟩ := h
  refine ⟨?_, fun q hq => ?_⟩
  · rwa [String.toList_ofList]
  · obtain ⟨text, rfl, rfl⟩ := Option.map_eq_some_iff.mp hq
    rwa [String.toList_ofList]

theorem isLegal_of_parse? {text : String} {p : PathAndQuery} (h : parse? text = some p) :
    p.IsLegal := by
  unfold parse? at h
  split_ifs at h
  exact isLegal_of_ofChars? h

theorem isFieldChar_of_mem_text {p : PathAndQuery} (h : p.IsLegal) {c : Char}
    (hc : c ∈ p.text.toList) : isFieldChar c = true := by
  unfold text at hc
  split_ifs at hc
  · rw [List.mem_singleton.mp hc]
    rfl
  · rw [String.toList_append] at hc
    obtain hc | hc := List.mem_append.mp hc
    · exact isFieldChar_of_isPathChar (h.path c hc)
    · unfold querySuffix at hc
      split at hc
      · rw [String.toList_append] at hc
        obtain hc | hc := List.mem_append.mp hc
        · rw [List.mem_singleton.mp hc]
          rfl
        · exact isFieldChar_of_isQueryChar (h.query _ ‹_› c hc)
      · cases hc

end PathAndQuery

namespace Uri

/-- Path and query of the address are legal, if it has some. -/
def IsLegal : Uri → Prop
  | origin p => p.IsLegal
  | absolute _ _ p => p.IsLegal
  | authority _ => True

theorem isLegal_of_ofFull? {cs : List Char} {uri : Uri} (h : ofFull? cs = some uri) :
    uri.IsLegal := by
  unfold ofFull? at h
  split at h
  · cases h
  · dsimp only at h
    split at h
    · cases h
    · split at h
      · split_ifs at h
        cases h
        trivial
      · obtain ⟨p, hp, rfl⟩ := Option.map_eq_some_iff.mp h
        exact PathAndQuery.isLegal_of_ofChars? hp

theorem isLegal_of_parse? {text : String} {uri : Uri} (h : parse? text = some uri) :
    uri.IsLegal := by
  unfold parse? at h
  split_ifs at h
  split at h
  · cases h
  · cases h
    have hstar : "*".toList.all PathAndQuery.isPathChar = true := by decide
    exact ⟨List.all_eq_true.mp hstar, fun q hq => by cases hq⟩
  · obtain ⟨p, hp, rfl⟩ := Option.map_eq_some_iff.mp h
    exact PathAndQuery.isLegal_of_ofChars? hp
  · exact isLegal_of_ofFull? h

theorem isLegal_of_withTarget? {uri uri' : Uri} {p : PathAndQuery} (hp : p.IsLegal)
    (h : uri.withTarget? p = some uri') : uri'.IsLegal := by
  cases uri with
  | origin _ => cases h; exact hp
  | absolute scheme name _ => cases h; exact hp
  | authority name => cases h

theorem isFieldChar_of_mem_url {uri : Uri} (h : uri.IsLegal) {c : Char}
    (hc : c ∈ uri.url.toList) : isFieldChar c = true := by
  cases uri with
  | origin p => exact PathAndQuery.isFieldChar_of_mem_text h hc
  | absolute scheme name p => exact PathAndQuery.isFieldChar_of_mem_text h hc
  | authority name => cases hc

end Uri

/-! ## Legal requests -/

/-- The method and the address of a request. -/
structure IsRequestLine (method : String) (uri : Uri) : Prop where
  method : isToken method = true
  uri : uri.IsLegal

theorem Incoming.isRequestLine (r : Incoming) : IsRequestLine r.request.method r.request.uri := by
  obtain ⟨method, url, headers, body, h⟩ := r.isBuilt
  unfold Request.build? at h
  split_ifs at h with hlegal
  obtain ⟨uri, huri, hr⟩ := Option.map_eq_some_iff.mp h
  rw [← hr]
  exact ⟨(Bool.and_eq_true_iff.mp hlegal).1, Uri.isLegal_of_parse? huri⟩

/-- Under the address that a rule gives it a request is legal as before. -/
theorem IsRequestLine.rerouted? {r r' : Request} {text : String}
    (h : IsRequestLine r.method r.uri) (hr' : r.rerouted? text = some r') :
    IsRequestLine r'.method r'.uri := by
  obtain ⟨target, uri, htarget, huri, rfl⟩ := rerouted?_eq_some_iff.mp hr'
  rw [← Uri.withTarget?_eq] at huri
  exact ⟨h.method, Uri.isLegal_of_withTarget? (PathAndQuery.isLegal_of_parse? htarget) huri⟩

/-! ## Clean rules -/

/-- The template has no control other than the tab. -/
def Rule.IsClean (r : Rule) : Prop :=
  ∀ c ∈ r.target.toList, c.toNat < 0x20 ∨ c.toNat = 0x7F → c = '\t'

theorem Rule.isFieldValue_target_iff {r : Rule} : isFieldValue r.target = true ↔ r.IsClean := by
  unfold isFieldValue IsClean
  simp only [List.all_eq_true, isFieldChar_iff_not_control]

instance (r : Rule) : Decidable r.IsClean := decidable_of_iff _ Rule.isFieldValue_target_iff

theorem Rule.IsClean.isFieldValue_targetFor {rule : Rule} (h : rule.IsClean) {v : RequestView}
    {uri : Uri} (hline : IsRequestLine v.method uri) (hurl : v.url = uri.url) :
    isFieldValue (rule.targetFor v) = true := by
  unfold isFieldValue
  rw [List.all_eq_true]
  intro c hc
  obtain hc | hc | hc := Rule.mem_targetFor hc
  · exact isFieldChar_iff_not_control.mpr (h c hc)
  · exact isFieldChar_of_isTokenChar ((isToken_iff.mp hline.method).2 c hc)
  · exact Uri.isFieldChar_of_mem_url hline.uri (hurl ▸ hc)

theorem dispatch_of_redirect {rules : List Rule} {rule : Rule} {status : ℕ} {v : RequestView}
    (hdecides : Decides rules v rule) (hredirect : rule.redirect = some status) :
    dispatch rules v = .redirect status (rule.targetFor v) := by
  rw [dispatch_of_decides hdecides, Rule.outcome, hredirect]

theorem redirects_of_clean {rules : List Rule} {rule : Rule} {status : ℕ} {r : Request}
    (hdecides : Decides rules r.view rule) (hredirect : rule.redirect = some status)
    (hclean : rule.IsClean) (hline : IsRequestLine r.method r.uri) :
    Redirects rules r status (rule.targetFor r.view) where
  dispatch := dispatch_of_redirect hdecides hredirect
  legal := isFieldValue_iff.mp (hclean.isFieldValue_targetFor hline rfl)

/-- What a redirect tells, whatever stands behind the rules. -/
theorem events_of_redirects {rules : List Rule} {r : Request} {status : ℕ} {location : String}
    (h : Redirects rules r status location) (logger : Logger) {m : Type → Type} [Pure m]
    (inner : Service m) : (inner.call rules logger r).events =
      logger.allEvents (matchReports rules r.view) ++
        [(Notice.redirecting r.uri location status).event] := by
  unfold Service.call
  rw [resolve_of_redirects h]
  rfl

/-- **Clean redirects.** A rule with a status whose template has no control other than the tab
answers every request that it decides about, whatever references the template has: with its status,
and with its target for the location. Its target may stand in a header, also where headers of the
request are no text, and it is told as a redirect and never as one that was given up. Every request
that comes in has a method and an address of that kind, and it keeps them where another rule changes
the address. -/
theorem clean_redirect_answers (rules : List Rule) {rule : Rule} {status : ℕ}
    (hredirect : rule.redirect = some status) (hclean : rule.IsClean) :
    (∀ a : Arrival, IsRequestLine a.method a.uri → Decides rules a.view rule →
      dispatch rules a.view = .redirect status (rule.targetFor a.view) ∧
        isFieldValue (rule.targetFor a.view) = true) ∧
    (∀ (r : Request) (logger : Logger), IsRequestLine r.method r.uri →
      Decides rules r.view rule →
      Answers rules logger r ⟨status, [("location", rule.targetFor r.view)], ""⟩ ∧
      ∀ (m : Type → Type) [Pure m] (inner : Service m),
        (inner.call rules logger r).events = logger.allEvents (matchReports rules r.view) ++
          [(Notice.redirecting r.uri (rule.targetFor r.view) status).event] ∧
        told badLocation (inner.call rules logger r).events = 0) ∧
    (∀ r : Incoming, IsRequestLine r.request.method r.request.uri) ∧
    ∀ (r r' : Request) (text : String), IsRequestLine r.method r.uri →
      r.rerouted? text = some r' → IsRequestLine r'.method r'.uri := by
  refine ⟨fun a hline hdecides => ?_, fun r logger hline hdecides => ?_, Incoming.isRequestLine,
    fun r r' text hline hr' => hline.rerouted? hr'⟩
  · exact ⟨dispatch_of_redirect hdecides hredirect, hclean.isFieldValue_targetFor hline rfl⟩
  · have hredirects := redirects_of_clean hdecides hredirect hclean hline
    refine ⟨answers_iff_redirects.mpr ⟨_, _, hredirects, rfl⟩, fun m _ inner => ?_⟩
    have hevents := events_of_redirects hredirects logger inner
    refine ⟨hevents, ?_⟩
    rw [hevents, told_append, told_allEvents (by decide)]
    exact told_badLocation (some (.redirecting r.uri (rule.targetFor r.view) status))

/-! ## A template with references -/

/-- A template that refers to the method and to the parts of a match. -/
def quotingTemplate : String := "/%\x7bREQUEST_METHOD\x7d\t$1$2$&$\x60$'$$"

def quoting : RawRule :=
  ⟨none, some (.string "^/([a-z])/(é)"), some (.string quotingTemplate), some (.int 301)⟩

def searchA : Incoming where
  request := ⟨"M-SEARCH", .absolute "http" "h:80" ⟨"/a/é", some "b=ü"⟩, [], "", none⟩
  isBuilt := ⟨"M-SEARCH", "http://h:80/a/é?b=ü", [], "", by decide +kernel⟩

/-- The match of that rule in the address. -/
def matchInA : Match := ⟨⟨0, 4⟩, [some ⟨1, 2⟩, some ⟨3, 4⟩]⟩

theorem exists_compile_quoting : ∃ rule, Rule.compile quoting = .ok rule ∧
    rule.AppliesTo searchA.request.view ∧ rule.redirect = some 301 ∧ rule.IsClean ∧
    rule.target = quotingTemplate ∧ rule.pattern.groupCount = 2 ∧
    rule.pattern.find? searchA.request.view.url.toList = some matchInA := by
  have heval : ((Rule.compile quoting).toOption.any fun rule =>
      rule.applies searchA.request.view && decide (rule.redirect = some 301 ∧ rule.IsClean ∧
        rule.target = quotingTemplate ∧ rule.pattern.groupCount = 2 ∧
        rule.pattern.find? searchA.request.view.url.toList = some matchInA)) = true := by
    decide +kernel
  obtain ⟨rule, hrule, hholds⟩ := exists_ok_of_any heval
  rw [Bool.and_eq_true, decide_eq_true_eq] at hholds
  exact ⟨rule, hrule, Rule.applies_iff_appliesTo.mp hholds.1, hholds.2⟩

theorem targetFor_quoting {rule : Rule} (htarget : rule.target = quotingTemplate)
    (hcount : rule.pattern.groupCount = 2)
    (hfound : rule.pattern.find? searchA.request.view.url.toList = some matchInA) :
    rule.targetFor searchA.request.view = "/M-SEARCH\taé/a/é?b=ü$?b=ü" := by
  have htemplate : Template.substituteMethod rule.target.toList "M-SEARCH".toList =
      "/M-SEARCH\t$1$2$&$\x60$'$$".toList := by
    rw [htarget]
    decide
  have hexpand : Template.expand ⟨rule.pattern, matchInA, "/a/é?b=ü".toList⟩
      "/M-SEARCH\t$1$2$&$\x60$'$$".toList = "/M-SEARCH\taé/a/é?b=ü$".toList := by
    simp [Template.expand, Template.reference?, Template.Context.hasGroup, Template.Context.group,
      hcount, matchInA, Span.slice, Span.before, Span.after, digitsValue, digitValue?]
  unfold Rule.targetFor
  rw [Template.replaceFirst_of_find? hfound]
  show String.ofList (_ ++ Template.expand ⟨_, _, "/a/é?b=ü".toList⟩
    (Template.substituteMethod rule.target.toList "M-SEARCH".toList) ++ _) = _
  rw [htemplate, hexpand]
  decide +kernel

/-- Visible characters, a tab and letters beyond ASCII may all stand in the location. -/
theorem clean_redirect_answers_quoting : ∃ rule, Rule.compile quoting = .ok rule ∧
    rule.redirect = some 301 ∧ rule.IsClean ∧
    IsRequestLine searchA.request.method searchA.request.uri ∧
    Decides [rule] searchA.request.view rule ∧
    Answers [rule] (.telling true) searchA.request
      ⟨301, [("location", "/M-SEARCH\taé/a/é?b=ü$?b=ü")], ""⟩ := by
  obtain ⟨rule, hrule, happ, hredirect, hclean, htarget, hcount, hfound⟩ := exists_compile_quoting
  have hdecides : Decides [rule] searchA.request.view rule :=
    ⟨[], [], rfl, List.forall_mem_nil _, happ⟩
  obtain ⟨-, hanswers, hincoming, -⟩ := clean_redirect_answers [rule] hredirect hclean
  have hanswer := (hanswers searchA.request (.telling true) (hincoming searchA) hdecides).1
  rw [targetFor_quoting htarget hcount hfound] at hanswer
  exact ⟨rule, hrule, hredirect, hclean, hincoming searchA, hdecides, hanswer⟩

end Detour
