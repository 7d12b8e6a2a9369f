import Detour.Proofs.Rule.Attribute
import Detour.Proofs.Rule.FirstMatch
import Detour.Proofs.Server.Layer
import Mathlib.Data.List.TakeWhile

/-!
# What a rerouted request shows

A request that goes on under a new address shows the target of the rule up to its first number sign,
and a slash where nothing is left of it, whatever the form of its address. Whoever looks at the
request next, rules among them, sees that text and no other (`rerouted_shows_target`).
-/

namespace Detour

/-! ## The text of a target -/

/-- The text begins with the given one, and goes on with a number sign or not at all. -/
def IsBeforeFragment (kept text : List Char) : Prop :=
  '#' ∉ kept ∧ (text = kept ∨ ∃ fragment, text = kept ++ '#' :: fragment)

theorem isBeforeFragment_iff {kept text : List Char} :
    IsBeforeFragment kept text ↔ kept = text.takeWhile (· ≠ '#') := by
  have hall : ∀ {kept : List Char}, '#' ∉ kept → ∀ c ∈ kept, decide (c ≠ '#') = true :=
    fun hkept c hc => decide_eq_true fun h => hkept (h ▸ hc)
  constructor
  · rintro ⟨hkept, rfl | ⟨fragment, rfl⟩⟩
    · exact (List.takeWhile_eq_self_iff.mpr (hall hkept)).symm
    · rw [List.takeWhile_append_of_pos (hall hkept), List.takeWhile_cons_of_neg (by simp),
        List.append_nil]
  · rintro rfl
    refine ⟨fun h => by simpa using List.mem_takeWhile_imp h, ?_⟩
    have hparts := List.takeWhile_append_dropWhile (p := (· ≠ '#')) (l := text)
    cases hrest : text.dropWhile (· ≠ '#') with
    | nil =>
      rw [hrest, List.append_nil] at hparts
      exact .inl hparts.symm
    | cons c rest =>
      have hhead := List.head_dropWhile_not (· ≠ '#') (by rw [hrest]; exact List.cons_ne_nil _ _)
      simp only [hrest, List.head_cons, decide_eq_false_iff_not, not_not] at hhead
      rw [hrest, hhead] at hparts
      exact .inr ⟨rest, hparts.symm⟩

/-- The address that a target shows: what stands before its fragment, a slash for nothing. -/
def Shows (target shown : String) : Prop :=
  ∃ kept, IsBeforeFragment kept target.toList ∧
    shown.toList = if kept = [] then ['/'] else kept

/-- A target shows one address only. -/
theorem Shows.unique {target shown other : String} (h : Shows target shown)
    (h' : Shows target other) : other = shown := by
  obtain ⟨kept, hkept, hshown⟩ := h
  obtain ⟨kept', hkept', hother⟩ := h'
  obtain rfl : kept = kept' :=
    (isBeforeFragment_iff.mp hkept).trans (isBeforeFragment_iff.mp hkept').symm
  exact String.toList_inj.mp (hother.trans hshown.symm)

namespace PathAndQuery

/-- Path and query put together are the text that they were read from. -/
theorem toList_text {path : List Char} {query : Option (List Char)} :
    (text ⟨String.ofList path, query.map String.ofList⟩).toList =
      if path ++ (query.map ('?' :: ·)).getD [] = [] then ['/']
      else path ++ (query.map ('?' :: ·)).getD [] := by
  unfold text isBlank querySuffix
  cases query with
  | none => cases path <;> simp
  | some q => simp

theorem shows_text {target : String} {t : PathAndQuery} (h : parse? target = some t) :
    Shows target t.text := by
  unfold parse? ofChars? at h
  refine ⟨target.toList.takeWhile (· ≠ '#'), isBeforeFragment_iff.mpr rfl, ?_⟩
  have hsplit := (splitOnce_spec '?' (target.toList.takeWhile (· ≠ '#'))).2
  generalize splitOnce '?' (target.toList.takeWhile (· ≠ '#')) = parts at h hsplit
  obtain ⟨path, query⟩ := parts
  dsimp only at h hsplit
  split_ifs at h
  cases h
  rw [hsplit, toList_text]

end PathAndQuery

/-! ## The request that goes on -/

variable {rules : List Rule} {logger : Logger} {r : Request} {uri : Uri}

/-- The request under another address, which remembers its own. -/
def Request.under (r : Request) (uri : Uri) : Request :=
  { r with uri := uri, reroutedFrom := some r.uri }

/-- A request that is rerouted goes on under the new address and in no other way. -/
theorem forwards_iff_under (h : Reroutes rules r uri) {r' : Request} :
    Forwards rules logger r r' ↔ r' = r.under uri := by
  rw [forwards_iff, resolve_of_reroutes h, Action.forward.injEq, eq_comm]
  rfl

/-- A request that remembers no address goes on with one just if it is rerouted. -/
theorem isSome_reroutedFrom_iff {r' : Request} (h : Forwards rules logger r r')
    (hr : r.reroutedFrom = none) :
    r'.reroutedFrom.isSome = true ↔ ∃ uri, Reroutes rules r uri := by
  obtain ⟨uri, hreroutes, rfl⟩ | ⟨hstays, rfl⟩ := forwards_iff_reroutes_or_stays.mp h
  · exact iff_of_true rfl ⟨uri, hreroutes⟩
  · refine iff_of_false ?_ fun ⟨uri, hreroutes⟩ => hstays.not_reroutes uri hreroutes
    rw [hr]
    exact Bool.false_ne_true

theorem shows_of_reroutes (h : Reroutes rules r uri) :
    ∃ target, dispatch rules r.view = .reroute target ∧ Shows target (r.under uri).view.url := by
  obtain ⟨-, -, target, t, hdispatch, ht, hurl⟩ := parts_of_reroutes h
  refine ⟨target, hdispatch, ?_⟩
  show Shows target uri.url
  rw [hurl]
  exact PathAndQuery.shows_text ht

/-- A rule looks at the address that is shown, puts its target into it and reports it. -/
theorem sees_shown (again : List Rule) {rule : Rule} {v : RequestView}
    (h : firstApplicable again v = some rule) :
    rule.pattern.isMatch v.url.toList = true ∧
      (dispatch again v = .reroute (rule.targetFor v) ∨
        ∃ status, dispatch again v = .redirect status (rule.targetFor v)) ∧
      matchReports again v = [.matched rule v.url (rule.targetFor v)] := by
  obtain ⟨hdispatch, hreports⟩ := Prod.mk.inj (verdict_of_first h)
  refine ⟨(Rule.applies_iff.mp (applies_of_firstApplicable h)).2, ?_, hreports⟩
  rw [hdispatch, Rule.outcome]
  cases rule.redirect with
  | none => exact .inl rfl
  | some status => exact .inr ⟨status, rfl⟩

/-- **Onward.** A request that came without a former address goes on with one just if the rules
reroute it. If they do, the service behind them receives the request under an address of the same
scheme and authority, and it shows the target of the rule up to its first number sign, a slash if
nothing stands there. But for that address it is the request that came. If rules look at it once
more, the one that decides matches that text, makes its target from it, and reports it. -/
theorem rerouted_shows_target (rules : List Rule) (logger : Logger) (r : Request) :
    (∀ r', Forwards rules logger r r' → r.reroutedFrom = none →
      (r'.reroutedFrom.isSome = true ↔ ∃ uri, Reroutes rules r uri)) ∧
    ∀ uri, Reroutes rules r uri → ∃ target shown,
      dispatch rules r.view = .reroute target ∧ Shows target shown ∧
      (∀ other, Shows target other → other = shown) ∧
      (∀ r', Forwards rules logger r r' ↔ r' = r.under uri) ∧
      (r.under uri).reroutedFrom = some r.uri ∧
      (r.under uri).uri.parts.scheme = r.uri.parts.scheme ∧
      (r.under uri).uri.parts.authority = r.uri.parts.authority ∧
      (r.under uri).view = { r.view with url := shown } ∧
      (∀ rule : Rule, rule.applies (r.under uri).view = true ↔
        rule.condition.holds (r.under uri).view = true ∧
          rule.pattern.isMatch shown.toList = true) ∧
      ∀ again rule, firstApplicable again (r.under uri).view = some rule →
        rule.pattern.isMatch shown.toList = true ∧
        ∃ next, next = String.ofList (Template.replaceFirst rule.pattern shown.toList
            (Template.substituteMethod rule.target.toList r.method.toList)) ∧
          (dispatch again (r.under uri).view = .reroute next ∨
            ∃ status, dispatch again (r.under uri).view = .redirect status next) ∧
          matchReports again (r.under uri).view = [.matched rule shown next] := by
  refine ⟨fun r' h hr => isSome_reroutedFrom_iff h hr, fun uri h => ?_⟩
  obtain ⟨target, hdispatch, hshown⟩ := shows_of_reroutes h
  obtain ⟨hscheme, hauthority, -⟩ := parts_of_reroutes h
  refine ⟨target, (r.under uri).view.url, hdispatch, hshown, fun _ => hshown.unique,
    fun _ => forwards_iff_under h, rfl, hscheme, hauthority, rfl, fun _ => Rule.applies_iff,
    fun again rule hfirst => ?_⟩
  obtain ⟨hmatch, hagain, hreports⟩ := sees_shown again hfirst
  exact ⟨hmatch, rule.targetFor (r.under uri).view, rfl, hagain, hreports⟩

example : ((Request.mk "GET" (.absolute "http" "h" ⟨"/a", none⟩) [] "" none).rerouted? "?q#/").map
    (·.uri.url) = some "?q" := by decide

end Detour
