import Detour.Http.Request
import Detour.Proofs.Rule.FirstMatch
import Detour.Proofs.Rule.Substitution

/-!
# The method in a target

The first method token of a template stands for the method, and what comes of that is the template
that is expanded. So a template without a dollar sign may get references all the same: a method may
hold dollar signs, and they refer to the match as those of a template do (`method_in_target`). A
method without them stands in the target as it is, but not every method does
(`not_every_method_verbatim`).
-/

namespace Detour

namespace Template

/-! ## The first token of a text -/

variable {token by' text front rest : List Char}

/-- The first occurrence of the token has `front` before it and `rest` behind it. -/
def IsParted (token text front rest : List Char) : Prop :=
  text = front ++ token ++ rest ∧
    ∀ front' rest', text = front' ++ token ++ rest' → front.length ≤ front'.length

theorem IsParted.unique {front' rest' : List Char} (h : IsParted token text front rest)
    (h' : IsParted token text front' rest') : front' = front ∧ rest' = rest := by
  have hlength := Nat.le_antisymm (h'.2 front rest h.1) (h.2 front' rest' h'.1)
  have htext := h'.1.symm.trans h.1
  rw [List.append_assoc, List.append_assoc] at htext
  obtain ⟨hfront, htail⟩ := List.append_inj htext hlength
  exact ⟨hfront, List.append_cancel_left htail⟩

theorem replaceToken_of_absent (hne : token ≠ []) (h : ¬ token <:+: text) :
    replaceToken token by' text = text := by
  induction text with
  | nil => rw [replaceToken, if_neg (by simpa using hne)]
  | cons c cs ih =>
    have hhere : ¬ token.isPrefixOf (c :: cs) = true := fun hprefix =>
      h (List.isPrefixOf_iff_prefix.mp hprefix).isInfix
    have hlater : ¬ token <:+: cs := fun hcs =>
      h (hcs.trans (List.suffix_cons c cs).isInfix)
    rw [replaceToken, if_neg hhere, ih hlater]

theorem replaceToken_of_isParted (hne : token ≠ []) (h : IsParted token text front rest) :
    replaceToken token by' text = front ++ by' ++ rest := by
  obtain ⟨htext, hfirst⟩ := h
  induction front generalizing text with
  | nil =>
    obtain ⟨t, ts, rfl⟩ := List.exists_cons_of_ne_nil hne
    have hhere : (t :: ts).isPrefixOf (t :: (ts ++ rest)) = true :=
      List.isPrefixOf_iff_prefix.mpr (List.prefix_append (t :: ts) rest)
    rw [htext, List.nil_append, List.cons_append, replaceToken, if_pos hhere, ← List.cons_append,
      List.drop_left]
    rfl
  | cons c front ih =>
    have hhere : ¬ token.isPrefixOf (c :: (front ++ token ++ rest)) = true := by
      intro hprefix
      obtain ⟨rest', hrest'⟩ := List.isPrefixOf_iff_prefix.mp hprefix
      have hlength := hfirst [] rest' (htext.trans hrest'.symm)
      cases hlength
    have hlater : ∀ front' rest', front ++ token ++ rest = front' ++ token ++ rest' →
        front.length ≤ front'.length := by
      intro front' rest' heq
      have hlength := hfirst (c :: front') rest' (htext.trans (congrArg (c :: ·) heq))
      exact Nat.le_of_succ_le_succ hlength
    rw [htext]
    show replaceToken token by' (c :: (front ++ token ++ rest)) = _
    rw [replaceToken, if_neg hhere, ih rfl hlater]
    rfl

theorem exists_isParted (h : token <:+: text) : ∃ front rest, IsParted token text front rest := by
  induction text with
  | nil => exact ⟨[], [], by simpa using h, fun _ _ _ => Nat.zero_le _⟩
  | cons c cs ih =>
    by_cases hhere : token <+: c :: cs
    · obtain ⟨rest, hrest⟩ := hhere
      exact ⟨[], rest, hrest.symm, fun _ _ _ => Nat.zero_le _⟩
    · obtain ⟨front, rest, htext, hfirst⟩ := ih ((List.infix_cons_iff.mp h).resolve_left hhere)
      refine ⟨c :: front, rest, congrArg (c :: ·) htext, fun front' rest' h' => ?_⟩
      cases front' with
      | nil => exact absurd ⟨rest', h'.symm⟩ hhere
      | cons c' front' =>
        exact Nat.succ_le_succ (hfirst front' rest' (List.cons.inj h').2)

/-! ## Readings without references -/

variable {p : Pattern} {cs : List Char} {pieces : List Piece}

/-- No dollar sign of the text begins a reference. -/
def HasNoReference (p : Pattern) (text : List Char) : Prop :=
  ∀ rest, '$' :: rest <:+ text → ∀ piece after, ¬ Reference p rest piece after

theorem hasNoReference_of_not_mem (h : '$' ∉ text) : HasNoReference p text := fun _ hsuffix =>
  absurd (hsuffix.subset List.mem_cons_self) h

theorem reads_of_hasNoReference (h : HasNoReference p cs) : Reads p cs (cs.map .literal) := by
  induction cs with
  | nil => exact .nil
  | cons c cs ih =>
    have hlater : HasNoReference p cs := fun rest hsuffix =>
      h rest (hsuffix.trans (List.suffix_cons c cs))
    by_cases hc : c = '$'
    · subst hc
      exact .alone (h cs (List.suffix_refl _)) (ih hlater)
    · exact .literal hc (ih hlater)

theorem Reads.append_left (h : Reads p cs pieces) (hfront : '$' ∉ front) :
    Reads p (front ++ cs) (front.map .literal ++ pieces) := by
  induction front with
  | nil => exact h
  | cons c front ih =>
    rw [List.mem_cons, not_or] at hfront
    exact .literal (Ne.symm hfront.1) (ih hfront.2)

@[simp] theorem flatMap_text_literals (x : Context) (cs : List Char) :
    (cs.map Piece.literal).flatMap (Piece.text x) = cs := by
  induction cs with
  | nil => rfl
  | cons c cs ih => rw [List.map_cons, List.flatMap_cons, ih]; rfl

/-! ## Templates without dollar signs -/

variable {x : Context} {template method : List Char}

theorem expand_of_absent (hdollar : '$' ∉ template) (h : ¬ methodToken <:+: template) :
    expand x (substituteMethod template method) = template := by
  have hreads := reads_of_hasNoReference (p := x.pattern) (hasNoReference_of_not_mem hdollar)
  rw [substituteMethod, replaceToken_of_absent (by decide) h, expand_of_reads hreads,
    flatMap_text_literals]

theorem expand_of_isParted (hdollar : '$' ∉ template)
    (h : IsParted methodToken template front rest)
    (hreads : Reads x.pattern (method ++ rest) pieces) :
    expand x (substituteMethod template method) = front ++ pieces.flatMap (Piece.text x) := by
  have hfront : '$' ∉ front := by
    rw [h.1, List.append_assoc] at hdollar
    exact fun hmem => hdollar (List.mem_append_left _ hmem)
  rw [substituteMethod, replaceToken_of_isParted (by decide) h, List.append_assoc,
    expand_of_reads (hreads.append_left hfront), List.flatMap_append, flatMap_text_literals]

end Template

open Template

/-! ## The method in a target -/

/-- **The method.** Let the template of an accepted rule have no dollar sign, and let the rule decide
about a request. Then the target is the address with a match replaced: by the template, if it has no
method token; else by what stands before the first token, and then the method together with all that
stands behind the token, read as a template. A method whose dollar signs begin no reference there,
above all a method without dollar signs, is put in as it is, and so is the rest of the template. -/
theorem method_in_target {raw : RawRule} {r : Rule} (hr : Rule.compile raw = .ok r)
    (hdollar : '$' ∉ r.target.toList) {rules : List Rule} {v : RequestView}
    (hfirst : firstApplicable rules v = some r) :
    ∃ found by' target, r.pattern.find? v.url.toList = some found ∧ found.LiesIn v.url.toList ∧
      target = found.whole.before v.url.toList ++ by' ++ found.whole.after v.url.toList ∧
      (r.redirect = none → dispatch rules v = .reroute (String.ofList target)) ∧
      (∀ status, r.redirect = some status →
        dispatch rules v = .redirect status (String.ofList target)) ∧
      (¬ methodToken <:+: r.target.toList ∧ by' = r.target.toList ∨
        ∃ front rest, IsParted methodToken r.target.toList front rest ∧
          (∃ pieces, Reads r.pattern (v.method.toList ++ rest) pieces ∧
            by' = front ++ pieces.flatMap (Piece.text ⟨r.pattern, found, v.url.toList⟩)) ∧
          ('$' ∉ v.method.toList ∨ HasNoReference r.pattern (v.method.toList ++ rest) →
            by' = front ++ v.method.toList ++ rest)) := by
  have hdispatch : dispatch rules v = r.outcome v := congrArg Prod.fst (verdict_of_first hfirst)
  obtain ⟨found, hfound, htarget⟩ :=
    Rule.exists_match_of_applies (applies_of_firstApplicable hfirst)
  refine ⟨found, _, (r.targetFor v).toList, hfound,
    Rule.IsCompiled.match_liesIn ⟨raw, hr⟩ hfound, htarget,
    fun hredirect => ?_, fun status hredirect => ?_, ?_⟩
  · rw [String.ofList_toList, hdispatch, Rule.outcome, hredirect]
  · rw [String.ofList_toList, hdispatch, Rule.outcome, hredirect]
  · by_cases htoken : methodToken <:+: r.target.toList
    · obtain ⟨front, rest, hparted⟩ := exists_isParted htoken
      obtain ⟨pieces, hreads⟩ := exists_reads r.pattern (v.method.toList ++ rest)
      refine .inr ⟨front, rest, hparted,
        ⟨pieces, hreads, expand_of_isParted hdollar hparted hreads⟩, fun hplain => ?_⟩
      have hno : HasNoReference r.pattern (v.method.toList ++ rest) := by
        refine hplain.elim (fun hmethod => hasNoReference_of_not_mem fun h => ?_) id
        obtain h | h := List.mem_append.mp h
        · exact hmethod h
        · rw [hparted.1] at hdollar
          exact hdollar (List.mem_append_right _ h)
      rw [expand_of_isParted hdollar hparted (reads_of_hasNoReference hno), flatMap_text_literals,
        List.append_assoc front]
    · exact .inl ⟨htoken, expand_of_absent hdollar htoken⟩

/-! ## A method with dollar signs -/

/-- A rule that puts the method in the place of the path. -/
def naming : RawRule :=
  ⟨none, some (.string "^/a$"), some (.string "/%\x7bREQUEST_METHOD\x7d"), none⟩

/-- A request with a method that reads as a reference to the match. -/
def quotingA : RequestView := ⟨"$&", "/a", fun _ => none⟩

def matchOfA : Match := ⟨⟨0, 2⟩, []⟩

theorem exists_compile_naming : ∃ r, Rule.compile naming = .ok r ∧
    r.applies quotingA = true ∧ r.redirect = none ∧
    r.target = "/%\x7bREQUEST_METHOD\x7d" ∧
    r.pattern.find? quotingA.url.toList = some matchOfA := by
  have heval : ((Rule.compile naming).toOption.any fun r =>
      r.applies quotingA && decide (r.redirect = none ∧ r.target = "/%\x7bREQUEST_METHOD\x7d" ∧
        r.pattern.find? quotingA.url.toList = some matchOfA)) = true := by
    decide +kernel
  obtain ⟨r, hr, hholds⟩ := exists_ok_of_any heval
  rw [Bool.and_eq_true, decide_eq_true_eq] at hholds
  exact ⟨r, hr, hholds⟩

/-- The reference in the method brings in the match. -/
theorem method_in_target_quotingA : ∃ r, Rule.compile naming = .ok r ∧ '$' ∉ r.target.toList ∧
    firstApplicable [r] quotingA = some r ∧ dispatch [r] quotingA = .reroute "//a" := by
  obtain ⟨r, hr, happ, hredirect, htarget, hfound⟩ := exists_compile_naming
  have hdollar : '$' ∉ r.target.toList := by rw [htarget]; decide
  have hfirst : firstApplicable [r] quotingA = some r := List.find?_cons_of_pos happ
  obtain ⟨found, by', target, hfound', -, htarget', hreroute, -, hby⟩ :=
    method_in_target hr hdollar hfirst
  obtain rfl : matchOfA = found := Option.some.inj (hfound.symm.trans hfound')
  have hparts : IsParted methodToken r.target.toList ['/'] [] := by
    rw [htarget]
    refine ⟨by decide, fun front' rest' h => ?_⟩
    have hfront : front' ≠ [] := by
      rintro rfl
      have hhead : some '/' = some '%' := congrArg List.head? h
      exact absurd hhead (by decide)
    exact List.length_pos_of_ne_nil hfront
  obtain ⟨habsent, -⟩ | ⟨front, rest, hparted, ⟨pieces, hreads, rfl⟩, -⟩ := hby
  · exact absurd ⟨['/'], [], hparts.1.symm⟩ habsent
  · obtain ⟨rfl, rfl⟩ := hparts.unique hparted
    obtain rfl : pieces = [.whole] := Reads.unique (.reference (.whole []) .nil) hreads
    refine ⟨r, hr, hdollar, hfirst, ?_⟩
    rw [hreroute hredirect, htarget']
    rfl

/-- Without dollar signs in the template a method need not stand in the target as it is. -/
theorem not_every_method_verbatim :
    ¬ ∀ (raw : RawRule) (r : Rule) (v : RequestView) (found : Match),
      Rule.compile raw = .ok r → '$' ∉ r.target.toList → isToken v.method = true →
      r.applies v = true → r.pattern.find? v.url.toList = some found → r.redirect = none →
      dispatch [r] v = .reroute (String.ofList (found.whole.before v.url.toList ++
        substituteMethod r.target.toList v.method.toList ++
        found.whole.after v.url.toList)) := by
  intro hall
  obtain ⟨r, hr, happ, hredirect, htarget, hfound⟩ := exists_compile_naming
  have hdollar : '$' ∉ r.target.toList := by rw [htarget]; decide
  have hverbatim := hall naming r quotingA matchOfA hr hdollar (by decide) happ hfound hredirect
  have htoken : substituteMethod r.target.toList quotingA.method.toList = "/$&".toList := by
    rw [htarget]
    decide
  have hreads : Reads r.pattern "/$&".toList [.literal '/', .whole] :=
    .literal (by decide) (.reference (.whole []) .nil)
  have htarget : r.targetFor quotingA = "//a" := by
    rw [Rule.targetFor, replaceFirst_of_find? hfound, htoken, expand_of_reads hreads]
    rfl
  have hdispatch : dispatch [r] quotingA = r.outcome quotingA :=
    congrArg Prod.fst (verdict_of_first (List.find?_cons_of_pos happ))
  rw [hdispatch, Rule.outcome, hredirect, htarget, htoken] at hverbatim
  exact absurd (Outcome.reroute.inj hverbatim) (by decide)

end Detour
