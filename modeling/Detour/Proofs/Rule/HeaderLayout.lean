import Detour.Proofs.Http.Representation
import Detour.Proofs.Rule.Attribute
import Mathlib.Logic.Relation

/-!
# The layout of headers

The case of a header's name, the order of headers with other names, and whatever comes behind a
header of the same name are matters of layout. Two lists of headers have the same first values just
if one becomes the other by changes of layout (`relaidAs_iff`), and rules make the same of two
requests that differ in nothing else (`dispatch_ignores_layout`).
-/

namespace Detour

section Layout

variable {β : Type}

/-- One change of layout: a name in another case, two neighbours of different names in the other
order, a header more or less behind one of the same name. -/
inductive Relaid : List (String × β) → List (String × β) → Prop
  | recase (front back : List (String × β)) {name other : String} (value : β)
    (h : sameIgnoringCase name other = true) :
    Relaid (front ++ (name, value) :: back) (front ++ (other, value) :: back)
  | exchange (front back : List (String × β)) {g h : String × β}
    (hne : sameIgnoringCase g.1 h.1 = false) :
    Relaid (front ++ g :: h :: back) (front ++ h :: g :: back)
  | insert (front back : List (String × β)) {h : String × β}
    (hseen : ∃ g ∈ front, sameIgnoringCase g.1 h.1 = true) :
    Relaid (front ++ back) (front ++ h :: back)
  | remove (front back : List (String × β)) {h : String × β}
    (hseen : ∃ g ∈ front, sameIgnoringCase g.1 h.1 = true) :
    Relaid (front ++ h :: back) (front ++ back)

variable {headers headers' : List (String × β)}

theorem firstUnder_append (front back : List (String × β)) (name : String) :
    firstUnder (front ++ back) name = (firstUnder front name).or (firstUnder back name) := by
  unfold firstUnder
  rw [List.find?_append, Option.map_or]

/-- A header behind one of the same name gives no first value. -/
theorem firstUnder_behind {front : List (String × β)} {h : String × β}
    (hseen : ∃ g ∈ front, sameIgnoringCase g.1 h.1 = true) (back : List (String × β))
    (name : String) : firstUnder (front ++ h :: back) name = firstUnder (front ++ back) name := by
  rw [firstUnder_append, firstUnder_append, firstUnder_cons]
  by_cases hname : sameIgnoringCase h.1 name = true
  · obtain ⟨g, hg, hsame⟩ := hseen
    have hfound : firstUnder front name ≠ none := by
      intro hnone
      have hother := firstUnder_eq_none_iff.mp hnone g hg
      rw [← sameIgnoringCase_congr hname, hsame] at hother
      cases hother
    obtain ⟨value, hvalue⟩ := Option.ne_none_iff_exists'.mp hfound
    rw [hvalue, Option.some_or, Option.some_or]
  · rw [if_neg hname]

/-- A change of layout leaves the first values as they are. -/
theorem Relaid.firstUnder_eq (h : Relaid headers headers') (name : String) :
    firstUnder headers' name = firstUnder headers name := by
  cases h with
  | recase front back value h =>
    rw [firstUnder_append, firstUnder_append, firstUnder_cons, firstUnder_cons,
      sameIgnoringCase_comm _ name, sameIgnoringCase_comm _ name, sameIgnoringCase_congr h]
  | @exchange front back g h hne =>
    rw [firstUnder_append, firstUnder_append, firstUnder_cons, firstUnder_cons, firstUnder_cons,
      firstUnder_cons]
    by_cases hg : sameIgnoringCase g.1 name = true
    · have hother : sameIgnoringCase h.1 name ≠ true := by
        rw [← sameIgnoringCase_congr hg, sameIgnoringCase_comm, hne]
        exact Bool.false_ne_true
      rw [if_pos hg, if_neg hother, if_pos hg]
    · rw [if_neg hg, if_neg hg]
  | insert front back hseen => exact firstUnder_behind hseen back name
  | remove front back hseen => exact (firstUnder_behind hseen back name).symm

theorem Relaid.symm (h : Relaid headers headers') : Relaid headers' headers := by
  cases h with
  | recase front back value h => exact .recase front back value (sameIgnoringCase_comm _ _ ▸ h)
  | exchange front back hne => exact .exchange front back (sameIgnoringCase_comm _ _ ▸ hne)
  | insert front back hseen => exact .remove front back hseen
  | remove front back hseen => exact .insert front back hseen

theorem Relaid.cons (h : Relaid headers headers') (g : String × β) :
    Relaid (g :: headers) (g :: headers') := by
  have hmore : ∀ {front : List (String × β)} {h : String × β},
      (∃ g ∈ front, sameIgnoringCase g.1 h.1 = true) →
      ∃ g' ∈ g :: front, sameIgnoringCase g'.1 h.1 = true :=
    fun ⟨g', hg', hsame⟩ => ⟨g', List.mem_cons_of_mem g hg', hsame⟩
  cases h with
  | recase front back value h => exact .recase (g :: front) back value h
  | exchange front back hne => exact .exchange (g :: front) back hne
  | insert front back hseen => exact .insert (g :: front) back (hmore hseen)
  | remove front back hseen => exact .remove (g :: front) back (hmore hseen)

/-- Any number of changes of layout, one after the other. -/
abbrev RelaidAs : List (String × β) → List (String × β) → Prop := Relation.ReflTransGen Relaid

theorem RelaidAs.symm (h : RelaidAs headers headers') : RelaidAs headers' headers := by
  induction h with
  | refl => exact .refl
  | tail _ hlast ih => exact .head hlast.symm ih

theorem RelaidAs.cons (h : RelaidAs headers headers') (g : String × β) :
    RelaidAs (g :: headers) (g :: headers') :=
  h.lift (g :: ·) fun _ _ h => h.cons g

/-- A header comes to the front past others of different names. -/
theorem relaidAs_front {h : String × β} {front : List (String × β)}
    (hfirst : ∀ g ∈ front, sameIgnoringCase g.1 h.1 = false) (back : List (String × β)) :
    RelaidAs (front ++ h :: back) (h :: (front ++ back)) := by
  induction front with
  | nil => exact .refl
  | cons g front ih =>
    obtain ⟨hg, hfront⟩ := List.forall_mem_cons.mp hfirst
    exact ((ih hfront).cons g).tail (.exchange [] (front ++ back) hg)

/-- Behind a header all others of its name may go. -/
theorem relaidAs_without {g : String × β} {front : List (String × β)} (hg : g ∈ front)
    (back : List (String × β)) : RelaidAs (front ++ back) (front ++ without g.1 back) := by
  induction back generalizing front with
  | nil => exact .refl
  | cons h back ih =>
    by_cases hsame : sameIgnoringCase h.1 g.1 = true
    · have hseen : ∃ g ∈ front, sameIgnoringCase g.1 h.1 = true :=
        ⟨g, hg, sameIgnoringCase_comm _ _ ▸ hsame⟩
      rw [without, List.filter_cons_of_neg (by simp [hsame])]
      exact .head (.remove front back hseen) (ih hg)
    · rw [without, List.filter_cons_of_pos (by simp [hsame])]
      have hrest := ih (List.mem_append_left [h] hg)
      rwa [List.append_assoc, List.append_assoc] at hrest

/-- The first value of a name can be brought to the front under that name, and others of the name
left out. -/
theorem relaidAs_cons {g : String × β} (h : firstUnder headers g.1 = some g.2) :
    ∃ rest, RelaidAs headers (g :: without g.1 rest) ∧
      ∀ name, sameIgnoringCase g.1 name = false →
        firstUnder rest name = firstUnder headers name := by
  obtain ⟨f, hfind, hvalue⟩ := Option.map_eq_some_iff.mp h
  obtain ⟨hsame, front, back, rfl, hfront⟩ := List.find?_eq_some_iff_append.mp hfind
  have hfirst : ∀ e ∈ front, sameIgnoringCase e.1 f.1 = false := by
    intro e he
    rw [sameIgnoringCase_congr hsame]
    simpa using hfront e he
  have hcase : Relaid (f :: (front ++ back)) (g :: (front ++ back)) := by
    obtain ⟨name, value⟩ := f
    obtain rfl : value = g.2 := hvalue
    exact .recase [] (front ++ back) g.2 hsame
  refine ⟨front ++ back, ?_, fun name hname => ?_⟩
  · exact ((relaidAs_front hfirst back).tail hcase).trans
      (relaidAs_without (List.mem_singleton_self g) (front ++ back))
  · have hother : sameIgnoringCase f.1 name ≠ true := by
      rw [sameIgnoringCase_comm, sameIgnoringCase_congr hsame, sameIgnoringCase_comm, hname]
      exact Bool.false_ne_true
    rw [firstUnder_append, firstUnder_append, firstUnder_cons, if_neg hother]

theorem relaidAs_of_firstUnder_eq
    (hfirst : ∀ name, firstUnder headers name = firstUnder headers' name) :
    RelaidAs headers headers' := by
  induction hlength : headers'.length using Nat.strongRecOn generalizing headers headers' with
  | ind n ih =>
    subst hlength
    cases headers' with
    | nil =>
      cases headers with
      | nil => exact .refl
      | cons g headers =>
        have hg := hfirst g.1
        rw [firstUnder_cons, if_pos (sameIgnoringCase_iff.mpr rfl)] at hg
        cases hg
    | cons g headers' =>
      have hg : ∀ rest, firstUnder (g :: rest) g.1 = some g.2 := fun rest => by
        rw [firstUnder_cons, if_pos (sameIgnoringCase_iff.mpr rfl)]
      obtain ⟨rest, hrelaid, hrest⟩ := relaidAs_cons ((hfirst g.1).trans (hg headers'))
      have hwithout : RelaidAs (without g.1 rest) (without g.1 headers') := by
        refine ih _ (Nat.lt_succ_of_le (length_without_le g.1 headers')) (fun name => ?_) rfl
        by_cases hname : sameIgnoringCase g.1 name = true
        · have hnone : ∀ headers : List (String × β),
              firstUnder (without g.1 headers) name = none := fun headers =>
            firstUnder_eq_none_iff.mpr fun h hh => by
              rw [← sameIgnoringCase_congr hname]
              exact (mem_without.mp hh).2
          rw [hnone, hnone]
        · have hother := Bool.eq_false_iff.mpr hname
          rw [firstUnder_without hother, firstUnder_without hother, hrest name hother, hfirst name,
            firstUnder_cons, if_neg hname]
      have hback : RelaidAs (g :: headers') (g :: without g.1 headers') :=
        relaidAs_without (List.mem_singleton_self g) headers'
      exact (hrelaid.trans (hwithout.cons g)).trans hback.symm

/-- Changes of layout lead from one list of headers to another just if both have the same first
values. -/
theorem relaidAs_iff :
    RelaidAs headers headers' ↔ ∀ name, firstUnder headers' name = firstUnder headers name := by
  refine ⟨fun h name => ?_, fun h => relaidAs_of_firstUnder_eq fun name => (h name).symm⟩
  induction h with
  | refl => rfl
  | tail _ hlast ih => rw [hlast.firstUnder_eq, ih]

end Layout

/-! ## Requests -/

/-- Rules, conditions and loggers make the same of both requests. -/
structure RequestParts.TreatedAlike (p q : RequestParts) : Prop where
  value? : ∀ name, q.view.value? name = p.view.value? name
  holds : ∀ c : Condition, c.holds q.view = c.holds p.view
  dispatch : ∀ rules, dispatch rules q.view = dispatch rules p.view
  reports : ∀ rules, matchReports rules q.view = matchReports rules p.view
  events : ∀ (logger : Logger) rules,
    logger.allEvents (matchReports rules q.view) = logger.allEvents (matchReports rules p.view)

theorem RequestParts.treatedAlike_of {p q : RequestParts} (hmethod : q.method = p.method)
    (hurl : q.url = p.url)
    (hfirst : ∀ name, firstUnder q.headers name = firstUnder p.headers name) :
    p.TreatedAlike q := by
  have hview : q.view = p.view := by
    unfold view
    rw [hmethod, hurl]
    exact congrArg _ (funext hfirst)
  constructor <;> intros <;> rw [hview]

/-- **Layout of headers.** Rules treat a request alike under every change of the layout of its
headers, one or several, and treat any two requests alike that have the same method, address and
first values. No more is needed to get from one to the other than such changes, and no change gives
another first value. -/
theorem dispatch_ignores_layout :
    (∀ (p : RequestParts) (headers : List (String × String)), Relaid p.headers headers →
      p.TreatedAlike { p with headers := headers }) ∧
    (∀ p q : RequestParts, q.method = p.method → q.url = p.url →
      (∀ name value, IsFirstValue q.headers name value ↔ IsFirstValue p.headers name value) →
      p.TreatedAlike q) ∧
    ∀ headers headers' : List (String × String),
      Relation.ReflTransGen Relaid headers headers' ↔
        ∀ name value, IsFirstValue headers' name value ↔ IsFirstValue headers name value := by
  have hiff : ∀ headers headers' : List (String × String),
      (∀ name value, IsFirstValue headers' name value ↔ IsFirstValue headers name value) ↔
        ∀ name, firstUnder headers' name = firstUnder headers name := by
    intro headers headers'
    simp only [isFirstValue_iff]
    exact forall_congr' fun name => Option.ext_iff.symm
  refine ⟨fun p headers h => ?_, fun p q hmethod hurl h => ?_, fun headers headers' => ?_⟩
  · exact RequestParts.treatedAlike_of rfl rfl h.firstUnder_eq
  · exact RequestParts.treatedAlike_of hmethod hurl ((hiff _ _).mp h)
  · rw [hiff]
    exact relaidAs_iff

end Detour
