import Detour.Proofs.Rule.ByteReference
import Detour.Proofs.Rule.FirstMatch

/-!
# The scan of a template, byte by byte

A template is scanned with a position that moves over its bytes, and cut where references begin and
end (`Template.Source.next?`). The scan never looks at a byte or cuts a text that is not there to be
looked at or cut, it moves on with every step, and what it has written accounts for all that it has
passed (`Template.Source.Inside`). So it ends, with the bytes of the expanded template
(`Template.scan_stays_inside`).
-/

namespace Detour.Template

/-! ## The scan -/

/-- Where the scan of a template stands: what is before `literalStart` is written out, and what
stands from there to `position` is text to be copied. -/
structure Scan where
  literalStart : ℕ
  position : ℕ
  written : List UInt8
deriving Repr, DecidableEq

namespace Scan

def start : Scan := ⟨0, 0, []⟩

/-- The byte at the position is a part of the text to be copied. -/
def skip (s : Scan) : Scan := { s with position := s.position + 1 }

/-- The text to be copied is written out, and behind it the text of a reference, which takes
`length` bytes. -/
def jump (s : Scan) (literal text : List UInt8) (length : ℕ) : Scan :=
  ⟨s.position + length, s.position + length, s.written ++ literal ++ text⟩

end Scan

namespace Source

variable (x : Source)

/-- One turn of the loop. -/
def next? (s : Scan) : Option Scan :=
  match x.template[s.position]? with
  | none => none
  | some b =>
    if b ≠ '$'.toUInt8 ∨ s.position + 1 = x.template.length then some s.skip
    else
      match x.reference? s.position with
      | none => none
      | some (length, text) =>
        if length = 0 then some s.skip
        else
          (slice? x.template s.literalStart s.position).map fun literal =>
            s.jump literal text length

theorem next?_cases {s s' : Scan} (h : x.next? s = some s') :
    s.position < x.template.length ∧ (s' = s.skip ∨
      ∃ literal text length, x.template[s.position]? = some '$'.toUInt8 ∧
        s.position + 1 ≠ x.template.length ∧ x.reference? s.position = some (length, text) ∧
        0 < length ∧ slice? x.template s.literalStart s.position = some literal ∧
        s' = s.jump literal text length) := by
  unfold next? at h
  split at h
  · cases h
  · rename_i b hb
    refine ⟨(List.getElem?_eq_some_iff.mp hb).1, ?_⟩
    split at h
    · exact .inl (Option.some.inj h).symm
    · rename_i hasks
      obtain ⟨hdollar, hend⟩ := not_or.mp hasks
      obtain rfl := not_not.mp hdollar
      split at h
      · cases h
      · rename_i length text href
        split at h
        · exact .inl (Option.some.inj h).symm
        · rename_i hlength
          obtain ⟨literal, hliteral, rfl⟩ := Option.map_eq_some_iff.mp h
          exact .inr ⟨literal, text, length, hb, hend, href, Nat.pos_of_ne_zero hlength, hliteral,
            rfl⟩

/-- Every turn moves on. -/
theorem position_lt_of_next? {s s' : Scan} (h : x.next? s = some s') :
    s.position < s'.position := by
  obtain ⟨-, rfl | ⟨literal, text, length, -, -, -, hlength, -, rfl⟩⟩ := x.next?_cases h
  · exact Nat.lt_succ_self _
  · exact Nat.lt_add_of_pos_right hlength

/-- What a scan has written at the end of the template, if nothing fails. -/
def expand? (s : Scan) : Option (List UInt8) :=
  if s.position < x.template.length then
    match h : x.next? s with
    | none => none
    | some s' =>
      have := x.position_lt_of_next? h
      expand? s'
  else (slice? x.template s.literalStart x.template.length).map (s.written ++ ·)
termination_by x.template.length - s.position

/-- The states of a scan at the head of its turns. -/
inductive Visits : Scan → Prop
  | start : Visits .start
  | next {s s' : Scan} (h : Visits s) (hnext : x.next? s = some s') : Visits s'

variable {x} {s s' : Scan}

theorem expand?_of_next? (h : x.next? s = some s') : x.expand? s = x.expand? s' := by
  rw [expand?, if_pos (x.next?_cases h).1]
  split
  · rename_i hnone
    exact absurd (hnone.symm.trans h) nofun
  · rename_i s'' hsome
    obtain rfl := Option.some.inj (h.symm.trans hsome)
    rfl

theorem expand?_of_end {literal : List UInt8} (h : s.position = x.template.length)
    (hliteral : slice? x.template s.literalStart x.template.length = some literal) :
    x.expand? s = some (s.written ++ literal) := by
  rw [expand?, if_neg (Nat.not_lt_of_le (Nat.le_of_eq h.symm)), hliteral]
  rfl

theorem next?_of_ne {b : UInt8} (hb : x.template[s.position]? = some b) (hne : b ≠ '$'.toUInt8) :
    x.next? s = some s.skip := by
  rw [next?, hb]
  exact if_pos (.inl hne)

theorem next?_of_end (hb : x.template[s.position]? = some '$'.toUInt8)
    (hend : s.position + 1 = x.template.length) : x.next? s = some s.skip := by
  rw [next?, hb]
  exact if_pos (.inr hend)

section Asks

variable {text : List UInt8} (hb : x.template[s.position]? = some '$'.toUInt8)
  (hend : s.position + 1 ≠ x.template.length)

include hb hend

theorem next?_of_none (href : x.reference? s.position = some (0, text)) :
    x.next? s = some s.skip := by
  rw [next?, hb]
  dsimp only
  rw [if_neg (not_or.mpr ⟨not_not.mpr rfl, hend⟩), href]
  exact if_pos rfl

theorem next?_of_reference {length : ℕ} {literal : List UInt8}
    (href : x.reference? s.position = some (length, text)) (hlength : 0 < length)
    (hliteral : slice? x.template s.literalStart s.position = some literal) :
    x.next? s = some (s.jump literal text length) := by
  rw [next?, hb]
  dsimp only
  rw [if_neg (not_or.mpr ⟨not_not.mpr rfl, hend⟩), href]
  dsimp only
  rw [if_neg (Nat.ne_of_gt hlength), hliteral]
  rfl

end Asks

/-- Bytes that are no dollar signs are passed over. -/
theorem expand?_pass {before bytes after : List UInt8}
    (htemplate : x.template = before ++ (bytes ++ after)) (h : '$'.toUInt8 ∉ bytes) (l : ℕ)
    (written : List UInt8) :
    x.expand? ⟨l, before.length, written⟩ = x.expand? ⟨l, (before ++ bytes).length, written⟩ := by
  induction bytes generalizing before with
  | nil => rw [List.append_nil]
  | cons b bytes ih =>
    obtain ⟨hb, hbytes⟩ := not_or.mp (mt List.mem_cons.mpr h)
    have hbyte : x.template[before.length]? = some b := by
      rw [htemplate, List.getElem?_append_right (Nat.le_refl _), Nat.sub_self]
      rfl
    have hrest : x.template = (before ++ [b]) ++ (bytes ++ after) := by
      rw [htemplate, List.append_assoc]
      rfl
    have hpass := ih hrest hbytes
    rw [List.append_assoc, List.length_append, List.length_singleton] at hpass
    rw [expand?_of_next? (next?_of_ne (s := ⟨l, before.length, written⟩) hbyte (Ne.symm hb))]
    exact hpass

end Source

/-! ## What holds at the head of every turn -/

namespace Source

variable (x : Source)

/-- A part of the template that is done with: text that was copied, then a reference and the text
that was written for it. -/
structure Stretch where
  literal : List UInt8
  reference : List UInt8
  text : List UInt8

def Stretch.source (d : Stretch) : List UInt8 := d.literal ++ d.reference

def Stretch.output (d : Stretch) : List UInt8 := d.literal ++ d.text

/-- The stretches make up the template up to `literalStart`, one after the other, and each reference
has been read at the dollar sign where it stands. What is written is what the stretches say. -/
structure Accounts (s : Scan) (done : List Stretch) : Prop where
  source : x.template.take s.literalStart = done.flatMap Stretch.source
  written : s.written = done.flatMap Stretch.output
  read : ∀ front d, front ++ [d] <+: done →
    0 < d.reference.length ∧
      x.template[(front.flatMap Stretch.source).length + d.literal.length]? =
        some '$'.toUInt8 ∧
      x.reference? ((front.flatMap Stretch.source).length + d.literal.length) =
        some (d.reference.length, d.text)

/-- The places where the template is cut at a dollar sign at `i`. -/
inductive Cuts (i : ℕ) : ℕ → Prop
  | before {length : ℕ} {text : List UInt8} (h : x.reference? i = some (length, text)) : Cuts i i
  | after {length : ℕ} {text : List UInt8} (h : x.reference? i = some (length, text)) :
    Cuts i (i + length)
  | name (h : x.template[i + 1]? = some '<'.toUInt8) : Cuts i (i + 2)
  | nameEnd {stop : ℕ} (h : x.template[i + 1]? = some '<'.toUInt8)
    (hstop : (x.template.drop (i + 2)).idxOf? '>'.toUInt8 = some stop) : Cuts i (i + 2 + stop)

/-- The position is behind the text that is written out, and within the template, and what is
written accounts for all bytes before the text to be copied. -/
structure Kept (s : Scan) : Prop where
  start_le : s.literalStart ≤ s.position
  le_length : s.position ≤ x.template.length
  boundary : isBoundary x.template s.literalStart = true
  accounts : ∃ done, x.Accounts s done

/-- **Inside.** All places where the template is cut are boundaries, the scan moves on until it is
at the end, and every byte before its position is accounted for once: it is in a stretch, or in the
text to be copied. -/
structure Inside (s : Scan) : Prop extends x.Kept s where
  cuts : x.template[s.position]? = some '$'.toUInt8 → s.position + 1 ≠ x.template.length →
    ∀ j, x.Cuts s.position j → isBoundary x.template j = true
  moves : s.position < x.template.length → ∃ s', x.next? s = some s' ∧ s.position < s'.position
  passed : ∃ done, x.Accounts s done ∧ x.template.take s.position =
    done.flatMap Stretch.source ++ (x.template.take s.position).drop s.literalStart

variable {x} {s : Scan}

/-- What is before a position is what is written out, and then the text to be copied. -/
theorem Kept.take_position (h : x.Kept s) : x.template.take s.position =
    x.template.take s.literalStart ++ (x.template.take s.position).drop s.literalStart := by
  have htake : (x.template.take s.position).take s.literalStart =
      x.template.take s.literalStart := by
    rw [List.take_take, Nat.min_eq_left h.start_le]
  rw [← htake, List.take_append_drop]

theorem Kept.skip (h : x.Kept s) (hlt : s.position < x.template.length) : x.Kept s.skip where
  start_le := Nat.le_succ_of_le h.start_le
  le_length := hlt
  boundary := h.boundary
  accounts := by
    obtain ⟨done, hdone⟩ := h.accounts
    exact ⟨done, hdone.source, hdone.written, hdone.read⟩

/-- A reference that was read closes a stretch. -/
theorem Kept.jump (h : x.Kept s) {literal text : List UInt8} {length : ℕ}
    (hdollar : x.template[s.position]? = some '$'.toUInt8)
    (href : x.reference? s.position = some (length, text)) (hlength : 0 < length)
    (hliteral : slice? x.template s.literalStart s.position = some literal)
    (hboundary : isBoundary x.template (s.position + length) = true) :
    x.Kept (s.jump literal text length) where
  start_le := Nat.le_refl _
  le_length := le_of_isBoundary hboundary
  boundary := hboundary
  accounts := by
    have hmax := le_of_isBoundary hboundary
    have hmin := h.start_le
    obtain ⟨done, hdone⟩ := h.accounts
    obtain ⟨-, rfl⟩ := slice?_eq_some_iff.mp hliteral
    have hreference : ((x.template.drop s.position).take length).length = length := by
      rw [List.length_take, List.length_drop]
      omega
    refine ⟨done ++ [⟨(x.template.take s.position).drop s.literalStart,
      (x.template.drop s.position).take length, text⟩], ?_, ?_, fun front d hd => ?_⟩
    · rw [List.flatMap_append, ← hdone.source, List.flatMap_singleton, Stretch.source,
        ← List.append_assoc, ← h.take_position, ← List.take_add]
      rfl
    · rw [List.flatMap_append, ← hdone.written, List.flatMap_singleton, Stretch.output,
        ← List.append_assoc]
      rfl
    -- the last stretch is the new one, and its reference stands at the position
    · obtain hlast | hprefix := List.prefix_concat_iff.mp hd
      · obtain ⟨rfl, hsame⟩ := List.append_inj' hlast rfl
        obtain rfl := List.singleton_inj.mp hsame
        have hplace : (front.flatMap Stretch.source).length +
            ((x.template.take s.position).drop s.literalStart).length = s.position := by
          rw [← hdone.source, List.length_drop, List.length_take, List.length_take]
          omega
        rw [hplace, hreference]
        exact ⟨hlength, hdollar, href⟩
      · exact hdone.read front d hprefix

theorem kept_start (x : Context) (template : List Char) : (x.bytes template).Kept .start where
  start_le := Nat.le_refl _
  le_length := Nat.zero_le _
  boundary := isBoundary_utf8_iff.mpr ⟨[], template, rfl, rfl⟩
  accounts := ⟨[], rfl, rfl, fun front d h => by simp at h⟩

end Source

section Sound

variable {x : Context} (hx : x.IsSound) {template : List Char}

include hx

/-- A dollar sign that is not the last byte begins a reference, or it takes no bytes. -/
theorem reference?_cases {i : ℕ} (hdollar : (utf8 template)[i]? = some '$'.toUInt8)
    (hend : i + 1 ≠ (utf8 template).length) :
    ∃ front c rest, template = front ++ '$' :: c :: rest ∧ i = (utf8 front).length ∧
      ((x.bytes template).reference? i = some (0, []) ∨
        ∃ (signs after : List Char) (piece : Piece), c :: rest = signs ++ after ∧
          (x.bytes template).reference? i =
            some ((utf8 ('$' :: signs)).length, utf8 (piece.text x))) := by
  obtain ⟨front, back, rfl, rfl⟩ := exists_of_ascii (by decide) hdollar
  cases back with
  | nil => exact absurd (length_utf8_dollar front).symm hend
  | cons c rest =>
    refine ⟨front, c, rest, rfl, rfl, ?_⟩
    by_cases href : ∃ piece after, Reference x.pattern (c :: rest) piece after
    · obtain ⟨piece, after, href⟩ := href
      obtain ⟨signs, hsigns, hread⟩ := reference?_of_reference hx front href
      exact .inr ⟨signs, after, piece, hsigns, hread⟩
    · exact .inl (reference?_of_not hx front fun piece after h => href ⟨piece, after, h⟩)

namespace Source

theorem boundary_of_cuts {i j : ℕ} (hdollar : (utf8 template)[i]? = some '$'.toUInt8)
    (hend : i + 1 ≠ (utf8 template).length) (h : (x.bytes template).Cuts i j) :
    isBoundary (utf8 template) j = true := by
  obtain ⟨front, c, rest, rfl, rfl, href⟩ := reference?_cases hx hdollar hend
  have hname : (utf8 (front ++ '$' :: c :: rest))[(utf8 front).length + 1]? = some '<'.toUInt8 →
      c = '<' := by
    intro h
    rw [getElem?_utf8_dollar] at h
    exact (leadByte_eq_iff (by decide)).mp (Option.some.inj h)
  cases h with
  | before => exact isBoundary_utf8_iff.mpr ⟨front, '$' :: c :: rest, rfl, rfl⟩
  | after h =>
    obtain hnone | ⟨signs, after, piece, hsigns, hread⟩ := href
    · cases hnone.symm.trans h
      exact isBoundary_utf8_iff.mpr ⟨front, '$' :: c :: rest, rfl, rfl⟩
    · cases hread.symm.trans h
      refine isBoundary_utf8_iff.mpr ⟨front ++ '$' :: signs, after, ?_, ?_⟩
      · rw [hsigns, List.append_assoc, List.cons_append]
      · rw [utf8_append, List.length_append]
  | name h =>
    obtain rfl := hname h
    refine isBoundary_utf8_iff.mpr ⟨front ++ ['$', '<'], rest, ?_, ?_⟩
    · rw [List.append_assoc]
      rfl
    · exact (length_utf8_bracket front).symm
  | @nameEnd stop h hstop =>
    obtain rfl := hname h
    have hclosed : (utf8 rest).idxOf? '>'.toUInt8 = some stop := by
      rw [← drop_utf8_bracket front rest]
      exact hstop
    obtain ⟨name, after, rfl, rfl⟩ := exists_of_idxOf?_utf8 hclosed
    refine isBoundary_utf8_iff.mpr ⟨front ++ ['$', '<'] ++ name, '>' :: after, ?_, ?_⟩
    · rw [List.append_assoc, List.append_assoc]
      rfl
    · rw [utf8_append, List.length_append, length_utf8_bracket]

theorem exists_next? {s : Scan} (h : (x.bytes template).Kept s)
    (hlt : s.position < (utf8 template).length) : ∃ s', (x.bytes template).next? s = some s' := by
  have hbyte : (x.bytes template).template[s.position]? = some ((utf8 template)[s.position]) :=
    List.getElem?_eq_getElem hlt
  by_cases hdollar : (utf8 template)[s.position] = '$'.toUInt8
  · rw [hdollar] at hbyte
    by_cases hend : s.position + 1 = (utf8 template).length
    · exact ⟨_, next?_of_end hbyte hend⟩
    · obtain ⟨front, c, rest, -, -, hnone | ⟨signs, after, piece, -, hread⟩⟩ :=
        reference?_cases hx hbyte hend
      · exact ⟨_, next?_of_none hbyte hend hnone⟩
      · have hboundary := boundary_of_cuts hx hbyte hend (.before hread)
        exact ⟨_, next?_of_reference hbyte hend hread
          (List.length_pos_of_ne_nil utf8_cons_ne_nil)
          (slice?_eq_some_iff.mpr ⟨⟨h.start_le, h.boundary, hboundary⟩, rfl⟩)⟩
  · exact ⟨_, next?_of_ne hbyte hdollar⟩

theorem kept_of_next? {s s' : Scan} (h : (x.bytes template).Kept s)
    (hnext : (x.bytes template).next? s = some s') : (x.bytes template).Kept s' := by
  obtain ⟨hlt, rfl | ⟨literal, text, length, hdollar, hend, href, hlength, hliteral, rfl⟩⟩ :=
    next?_cases _ hnext
  · exact h.skip hlt
  · exact h.jump hdollar href hlength hliteral (boundary_of_cuts hx hdollar hend (.after href))

theorem kept_of_visits {s : Scan} (h : (x.bytes template).Visits s) :
    (x.bytes template).Kept s := by
  induction h with
  | start => exact kept_start x template
  | next _ hnext ih => exact kept_of_next? hx ih hnext

/-- Every state of a scan is inside. -/
theorem inside_of_visits {s : Scan} (h : (x.bytes template).Visits s) :
    (x.bytes template).Inside s := by
  have hkept := kept_of_visits hx h
  refine ⟨hkept, fun hdollar hend j hj => boundary_of_cuts hx hdollar hend hj, fun hlt => ?_, ?_⟩
  · obtain ⟨s', hnext⟩ := exists_next? hx hkept hlt
    exact ⟨s', hnext, position_lt_of_next? _ hnext⟩
  · obtain ⟨done, hdone⟩ := hkept.accounts
    exact ⟨done, hdone, by rw [← hdone.source, ← hkept.take_position]⟩

/-- The scan comes to the end of the template. -/
theorem exists_visits_end {s : Scan} (h : (x.bytes template).Visits s) :
    ∃ s', (x.bytes template).Visits s' ∧ s'.position = (utf8 template).length := by
  induction hleft : (utf8 template).length - s.position using Nat.strong_induction_on
    generalizing s with
  | _ left ih =>
    have hinside := inside_of_visits hx h
    have hle : s.position ≤ (utf8 template).length := hinside.le_length
    by_cases hlt : s.position < (utf8 template).length
    · obtain ⟨s', hnext, hmoves⟩ := hinside.moves hlt
      exact ih _ (by omega) (h.next hnext) rfl
    · exact ⟨s, h, by omega⟩

/-! ## What is written -/

/-- From any place between two characters on, a scan writes the expansion of the rest. -/
theorem expand?_of_reads {back : List Char} {pieces : List Piece}
    (h : Reads x.pattern back pieces) (front middle : List Char)
    (htemplate : template = front ++ middle ++ back) (written : List UInt8) :
    (x.bytes template).expand? ⟨(utf8 front).length, (utf8 (front ++ middle)).length, written⟩ =
      some (written ++ utf8 middle ++ utf8 (pieces.flatMap (Piece.text x))) := by
  -- along the reading: literal text goes over to `middle`, a reference to `front` and `written`
  induction h generalizing front middle written with
  | nil =>
    have hcut := slice?_utf8 front middle []
    rw [List.append_nil] at hcut htemplate
    subst htemplate
    rw [expand?_of_end rfl hcut, List.flatMap_nil, utf8_nil, List.append_nil]
  | @literal c cs pieces hc h ih =>
    have hrest : template = front ++ (middle ++ [c]) ++ cs := by rw [htemplate]; simp
    have hbytes : (x.bytes template).template =
        utf8 (front ++ middle) ++ (utf8 [c] ++ utf8 cs) := by
      rw [← utf8_append, ← utf8_append]
      exact congrArg utf8 htemplate
    have hno : '$'.toUInt8 ∉ utf8 [c] := by
      rw [mem_utf8_iff (by decide), List.mem_singleton]
      exact Ne.symm hc
    have hfrom := ih front (middle ++ [c]) hrest written
    rw [← List.append_assoc] at hfrom
    rw [expand?_pass hbytes hno, ← utf8_append, hfrom]
    show _ = some (written ++ utf8 middle ++ utf8 ([c] ++ pieces.flatMap (Piece.text x)))
    simp only [utf8_append, List.append_assoc]
  | @reference cs rest piece pieces href h ih =>
    obtain ⟨c, tail, rfl⟩ : ∃ c tail, cs = c :: tail := by cases href <;> exact ⟨_, _, rfl⟩
    obtain ⟨signs, hsigns, hread⟩ := reference?_of_reference hx (front ++ middle) href
    have hrest : template = front ++ middle ++ '$' :: signs ++ [] ++ rest := by
      rw [htemplate, hsigns]
      simp
    subst htemplate
    have hcut := slice?_utf8 front middle ('$' :: c :: tail)
    have hfrom := ih (front ++ middle ++ '$' :: signs) [] hrest
      (written ++ utf8 middle ++ utf8 (piece.text x))
    rw [List.append_nil, utf8_append _ ('$' :: signs), List.length_append] at hfrom
    rw [expand?_of_next? (next?_of_reference (getElem?_utf8_ascii (by decide) _ _)
      (length_utf8_dollar_ne _ _ _) hread (List.length_pos_of_ne_nil utf8_cons_ne_nil) hcut),
      Scan.jump, hfrom]
    simp only [List.flatMap_cons, utf8_append, List.append_assoc, utf8_nil, List.nil_append]
  | @alone cs pieces hno h ih =>
    have hrest : template = front ++ (middle ++ ['$']) ++ cs := by rw [htemplate]; simp
    have hfrom := ih front (middle ++ ['$']) hrest written
    rw [← List.append_assoc, length_utf8_dollar] at hfrom
    have hnext : (x.bytes template).next?
        ⟨(utf8 front).length, (utf8 (front ++ middle)).length, written⟩ =
          some (Scan.skip ⟨(utf8 front).length, (utf8 (front ++ middle)).length, written⟩) := by
      subst htemplate
      have hdollar := getElem?_utf8_ascii (show '$'.toNat < 128 by decide) (front ++ middle) cs
      cases cs with
      | nil => exact next?_of_end hdollar (length_utf8_dollar _).symm
      | cons c cs =>
        exact next?_of_none hdollar (length_utf8_dollar_ne _ _ _) (reference?_of_not hx _ hno)
    rw [expand?_of_next? hnext]
    refine hfrom.trans ?_
    show _ = some (written ++ utf8 middle ++ utf8 (['$'] ++ pieces.flatMap (Piece.text x)))
    simp only [utf8_append, List.append_assoc]

end Source

end Sound

/-- The input with the first match of the pattern replaced, in bytes. -/
def replaceFirst? (pattern : Pattern) (input template : List Char) : Option (List UInt8) :=
  match pattern.find? input with
  | none => some (utf8 input)
  | some found => do
    let x := Context.bytes ⟨pattern, found, input⟩ template
    let before ← slice? x.input 0 x.found.whole.start
    let text ← x.expand? .start
    let after ← slice? x.input x.found.whole.stop x.input.length
    return before ++ text ++ after

/-- **The scan stays inside.** Every state of the scan of a template for a match of a compiled
pattern is inside, it comes to the end of the template, and no turn fails: what is written is the
expansion of the template, and what is put in the place of the match. -/
theorem scan_stays_inside {source : String} {p : Pattern} (h : Pattern.compile source = .ok p)
    (input template : List Char) :
    (∀ found, p.find? input = some found →
      (∀ s, (Context.bytes ⟨p, found, input⟩ template).Visits s →
        (Context.bytes ⟨p, found, input⟩ template).Inside s) ∧
      (∃ s, (Context.bytes ⟨p, found, input⟩ template).Visits s ∧
        s.position = (utf8 template).length) ∧
      (Context.bytes ⟨p, found, input⟩ template).expand? .start =
        some (utf8 (expand ⟨p, found, input⟩ template))) ∧
    replaceFirst? p input template = some (utf8 (replaceFirst p input template)) := by
  have hexpand : ∀ found, p.find? input = some found →
      (Context.bytes ⟨p, found, input⟩ template).expand? .start =
        some (utf8 (expand ⟨p, found, input⟩ template)) := by
    intro found hfound
    obtain ⟨pieces, hreads⟩ := exists_reads p template
    rw [expand_of_reads hreads]
    exact Source.expand?_of_reads (Context.isSound_of_find? h hfound) hreads [] [] rfl []
  refine ⟨fun found hfound => ?_, ?_⟩
  · have hx := Context.isSound_of_find? h hfound
    exact ⟨fun s hs => Source.inside_of_visits hx hs, Source.exists_visits_end hx .start,
      hexpand found hfound⟩
  · unfold replaceFirst?
    cases hfound : p.find? input with
    | none =>
      unfold replaceFirst
      rw [hfound]
    | some found =>
      have hx := Context.isSound_of_find? h hfound
      have hbefore : slice? (utf8 input) 0 (found.inBytes input).whole.start =
          some (utf8 (found.whole.before input)) := hx.cut?_before
      have hafter : slice? (utf8 input) (found.inBytes input).whole.stop (utf8 input).length =
          some (utf8 (found.whole.after input)) := hx.cut?_after
      show (slice? (utf8 input) 0 (found.inBytes input).whole.start).bind (fun before =>
        ((Context.bytes ⟨p, found, input⟩ template).expand? .start).bind fun text =>
          (slice? (utf8 input) (found.inBytes input).whole.stop (utf8 input).length).bind
            fun after => some (before ++ text ++ after)) = _
      rw [hbefore, hexpand found hfound, hafter, replaceFirst_of_find? hfound, utf8_append,
        utf8_append]
      rfl

def matchOfEB : Match := ⟨⟨1, 3⟩, [some ⟨2, 3⟩]⟩

/-- A reference between characters of several bytes, and a dollar sign at the end: the scan comes
to the end of all eight bytes. -/
theorem scan_stays_inside_between : ∃ p, Pattern.compile "é(b)" = .ok p ∧
    p.find? "aéb".toList = some matchOfEB ∧
    (∃ s, (Context.bytes ⟨p, matchOfEB, "aéb".toList⟩ "ü$1€$".toList).Visits s ∧
      (Context.bytes ⟨p, matchOfEB, "aéb".toList⟩ "ü$1€$".toList).Inside s ∧ s.position = 8) ∧
    replaceFirst? p "aéb".toList "ü$1€$".toList = some (utf8 "aüb€$".toList) := by
  obtain ⟨p, hcompile, hfound, hcount⟩ : ∃ p, Pattern.compile "é(b)" = .ok p ∧
      p.find? "aéb".toList = some matchOfEB ∧ p.groupCount = 1 := by
    have heval : ((Pattern.compile "é(b)").toOption.any fun p =>
        decide (p.find? "aéb".toList = some matchOfEB ∧ p.groupCount = 1)) = true := by
      decide +kernel
    obtain ⟨p, hcompile, hholds⟩ := exists_ok_of_any heval
    exact ⟨p, hcompile, of_decide_eq_true hholds⟩
  obtain ⟨hscan, hreplace⟩ := scan_stays_inside hcompile "aéb".toList "ü$1€$".toList
  obtain ⟨hinside, ⟨s, hvisits, hposition⟩, -⟩ := hscan matchOfEB hfound
  have hone : Reference p "1€$".toList (.group 1) "€$".toList :=
    .oneDigit (a := 1) (by decide) (by decide) (by omega) fun b _ _ => by omega
  have hnone : ∀ piece rest, ¬ Reference p [] piece rest := fun _ _ h => nomatch h
  have hreads : Reads p "ü$1€$".toList [.literal 'ü', .group 1, .literal '€', .literal '$'] :=
    .literal (by decide) (.reference hone (.literal (by decide) (.alone hnone .nil)))
  refine ⟨p, hcompile, hfound, ⟨s, hvisits, hinside s hvisits, hposition⟩, ?_⟩
  rw [hreplace, replaceFirst_of_find? hfound, expand_of_reads hreads]
  rfl

end Detour.Template
