import Detour.Proofs.Json.Scalar
import Detour.Proofs.Pattern.Span
import Detour.Proofs.Rule.Normal
import Detour.Rule.Template
import Mathlib.Data.List.TakeWhile
import Mathlib.Tactic.IntervalCases

/-!
# What a template stands for

A template is read from left to right into characters and references, before there is anything to
refer to: the reading depends on the number of groups and on whether one has a name
(`Template.Reads`). There is exactly one reading, and a replacement puts the texts of its pieces
side by side (`Template.replaceFirst_reads`). What a piece brings in is not read again.
-/

namespace Detour.Template

/-! ## Readings -/

/-- A piece of a template. -/
inductive Piece where
  | literal (c : Char)
  | whole
  | before
  | after
  | group (n : ℕ)
  | named (name : List Char)
deriving Repr, DecidableEq

/-- The part of the input at the span of a group, empty if the group took no part. -/
def textAt (input : List Char) : Option Span → List Char
  | some s => (input.take s.stop).drop s.start
  | none => []

/-- The text that a piece stands for. Groups are counted from one; a name stands for the group that
has it, and for nothing if none has. -/
def Piece.text (x : Context) : Piece → List Char
  | literal c => [c]
  | whole => (x.input.take x.found.whole.stop).drop x.found.whole.start
  | before => x.input.take x.found.whole.start
  | after => x.input.drop x.found.whole.stop
  | group n => textAt x.input x.found.groups[n - 1]?.join
  | named name =>
    textAt x.input <| (x.pattern.names.find? fun n => n.1 = String.ofList name).bind fun n =>
      x.found.groups[n.2 - 1]?.join

theorem Piece.text_whole (x : Context) : whole.text x = x.found.whole.slice x.input := rfl

theorem Piece.text_before (x : Context) : before.text x = x.found.whole.before x.input := rfl

theorem Piece.text_after (x : Context) : after.text x = x.found.whole.after x.input := rfl

theorem Piece.text_group (x : Context) (n : ℕ) : (group n).text x = x.group n := by
  show textAt x.input x.found.groups[n - 1]?.join = _
  unfold Context.group
  match x.found.groups[n - 1]? with
  | none => rfl
  | some none => rfl
  | some (some s) => rfl

theorem Piece.text_named (x : Context) (name : List Char) : (named name).text x = x.named name := by
  show textAt x.input ((x.pattern.names.find? fun n => n.1 = String.ofList name).bind _) = _
  unfold Context.named Pattern.groupNamed?
  cases x.pattern.names.find? fun n => n.1 = String.ofList name with
  | none => rfl
  | some n => exact text_group x n.2

/-- The text after a dollar sign makes a reference with it, and goes on with `rest`. Two digits are
read together if there is such a group, and names only if the pattern has any. -/
inductive Reference (p : Pattern) : List Char → Piece → List Char → Prop
  | dollar (rest : List Char) : Reference p ('$' :: rest) (.literal '$') rest
  | whole (rest : List Char) : Reference p ('&' :: rest) .whole rest
  | before (rest : List Char) : Reference p ('\x60' :: rest) .before rest
  | after (rest : List Char) : Reference p ('\'' :: rest) .after rest
  | twoDigits {a b : ℕ} (ha : a < 10) (hb : b < 10) (hlow : 1 ≤ 10 * a + b)
    (hhigh : 10 * a + b ≤ p.groupCount) (rest : List Char) :
    Reference p (a.digitChar :: b.digitChar :: rest) (.group (10 * a + b)) rest
  | oneDigit {a : ℕ} {rest : List Char} (ha : a < 10) (hlow : 1 ≤ a) (hhigh : a ≤ p.groupCount)
    (hnext : ∀ b < 10, rest.head? = some b.digitChar → p.groupCount < 10 * a + b) :
    Reference p (a.digitChar :: rest) (.group a) rest
  | named {name : List Char} (hnames : p.names ≠ []) (hname : '>' ∉ name) (rest : List Char) :
    Reference p ('<' :: (name ++ '>' :: rest)) (.named name) rest

/-- The template falls into the given pieces. A dollar sign that begins no reference stands for
itself. -/
inductive Reads (p : Pattern) : List Char → List Piece → Prop
  | nil : Reads p [] []
  | literal {c : Char} {cs : List Char} {pieces : List Piece} (hc : c ≠ '$')
    (h : Reads p cs pieces) : Reads p (c :: cs) (.literal c :: pieces)
  | reference {cs rest : List Char} {piece : Piece} {pieces : List Piece}
    (href : Reference p cs piece rest) (h : Reads p rest pieces) :
    Reads p ('$' :: cs) (piece :: pieces)
  | alone {cs : List Char} {pieces : List Piece} (hno : ∀ piece rest, ¬ Reference p cs piece rest)
    (h : Reads p cs pieces) : Reads p ('$' :: cs) (.literal '$' :: pieces)

/-! ## Digits -/

theorem isDigit_digitChar : ∀ a < 10, a.digitChar.isDigit = true := by decide

theorem digitChar_ne {a : ℕ} (ha : a < 10) {c : Char} (hc : c.isDigit = false) :
    a.digitChar ≠ c := by
  rintro rfl
  exact absurd ((isDigit_digitChar a ha).symm.trans hc) Bool.noConfusion

theorem digitChar_inj : ∀ a < 10, ∀ b < 10, a.digitChar = b.digitChar → a = b := by decide

theorem exists_digitChar {c : Char} (h : c.isDigit = true) : ∃ a < 10, c = a.digitChar := by
  have hbounds : 48 ≤ c.toNat ∧ c.toNat ≤ 57 := by
    simpa [Char.isDigit, UInt32.le_iff_toNat_le] using h
  have hall : ∀ n, 48 ≤ n → n ≤ 57 → Char.ofNat n = (n - 48).digitChar := by
    intro n hlow hhigh
    interval_cases n <;> rfl
  refine ⟨c.toNat - 48, by omega, ?_⟩
  rw [← hall c.toNat hbounds.1 hbounds.2, Char.ofNat_toNat]

theorem digitsValue_digitChar {a : ℕ} (ha : a < 10) : digitsValue 10 [a.digitChar] = a := by
  simp [digitsValue, digitValue?_digitChar a ha]

theorem digitsValue_digitChar₂ {a b : ℕ} (ha : a < 10) (hb : b < 10) :
    digitsValue 10 [a.digitChar, b.digitChar] = 10 * a + b := by
  simp [digitsValue, digitValue?_digitChar a ha, digitValue?_digitChar b hb, Nat.mul_comm]

/-! ## References -/

/-- The number that the digit writes together with the next character. -/
def bothDigits (c : Char) : List Char → ℕ
  | d :: _ => if d.isDigit then digitsValue 10 [c, d] else 0
  | [] => 0

/-- The reference that a text makes with a dollar sign before it, and what follows. -/
def piece? (p : Pattern) : List Char → Option (Piece × List Char)
  | [] => none
  | c :: rest =>
    if c = '$' then some (.literal '$', rest)
    else if c = '&' then some (.whole, rest)
    else if c = '\x60' then some (.before, rest)
    else if c = '\'' then some (.after, rest)
    else if c.isDigit then
      if 1 ≤ bothDigits c rest && bothDigits c rest ≤ p.groupCount then
        some (.group (bothDigits c rest), rest.drop 1)
      else if 1 ≤ digitsValue 10 [c] && digitsValue 10 [c] ≤ p.groupCount then
        some (.group (digitsValue 10 [c]), rest)
      else none
    else if c = '<' ∧ p.names ≠ [] then
      match rest.span (· ≠ '>') with
      | (_, []) => none
      | (name, _ :: after) => some (.named name, after)
    else none

/-- A reference is read before it is known what it refers to. -/
theorem reference?_eq (x : Context) (cs : List Char) :
    reference? x cs = (piece? x.pattern cs).map fun r =>
      (cs.length - r.2.length, r.1.text x) := by
  cases cs with
  | nil => rfl
  | cons c rest =>
    have hone : rest.length + 1 - rest.length = 1 := by omega
    unfold reference? piece?
    by_cases hdollar : c = '$'
    · simp [hdollar, hone, Piece.text]
    by_cases hwhole : c = '&'
    · simp [hwhole, hone, Piece.text_whole]
    by_cases hbefore : c = '\x60'
    · simp [hbefore, hone, Piece.text_before]
    by_cases hafter : c = '\''
    · simp [hafter, hone, Piece.text_after]
    simp only [if_neg hdollar, if_neg hwhole, if_neg hbefore, if_neg hafter]
    by_cases hdigit : c.isDigit = true
    · simp only [if_pos hdigit]
      show (if x.hasGroup (bothDigits c rest) then some (2, x.group (bothDigits c rest))
        else if x.hasGroup (digitsValue 10 [c]) then some (1, x.group (digitsValue 10 [c]))
        else none) = _
      unfold Context.hasGroup
      split
      · rename_i hboth
        cases rest with
        | nil => simp [bothDigits] at hboth
        | cons d rest => simp [Piece.text_group]; omega
      · split
        · simp [Piece.text_group, hone]
        · rfl
    simp only [if_neg hdigit]
    by_cases hname : c = '<' ∧ x.pattern.names ≠ []
    · simp only [if_pos hname]
      have hparts := List.takeWhile_append_dropWhile (p := (· ≠ '>')) (l := rest)
      rw [List.span_eq_takeWhile_dropWhile]
      cases hrest : rest.dropWhile (· ≠ '>') with
      | nil => rfl
      | cons d after =>
        rw [hrest] at hparts
        have hlength := congrArg List.length hparts
        rw [List.length_append, List.length_cons] at hlength
        refine congrArg some (Prod.ext ?_ (Piece.text_named x _).symm)
        show _ + 2 = rest.length + 1 - after.length
        omega
    · simp only [if_neg hname, Option.map_none]

theorem piece?_digit {p : Pattern} {a : ℕ} (ha : a < 10) (rest : List Char) :
    piece? p (a.digitChar :: rest) =
      if 1 ≤ bothDigits a.digitChar rest && bothDigits a.digitChar rest ≤ p.groupCount then
        some (.group (bothDigits a.digitChar rest), rest.drop 1)
      else if 1 ≤ a && a ≤ p.groupCount then some (.group a, rest)
      else none := by
  rw [piece?, if_neg (digitChar_ne ha rfl), if_neg (digitChar_ne ha rfl),
    if_neg (digitChar_ne ha rfl), if_neg (digitChar_ne ha rfl), if_pos (isDigit_digitChar a ha),
    digitsValue_digitChar ha]

theorem bothDigits_digitChar {a b : ℕ} (ha : a < 10) (hb : b < 10) (rest : List Char) :
    bothDigits a.digitChar (b.digitChar :: rest) = 10 * a + b := by
  rw [bothDigits, if_pos (isDigit_digitChar b hb), digitsValue_digitChar₂ ha hb]

/-- The next character makes a number with the digit, or it does not count. -/
theorem bothDigits_cases {a : ℕ} (ha : a < 10) (rest : List Char) :
    (∃ b < 10, ∃ after, rest = b.digitChar :: after ∧ bothDigits a.digitChar rest = 10 * a + b) ∨
      bothDigits a.digitChar rest = 0 ∧ ∀ b < 10, rest.head? ≠ some b.digitChar := by
  cases rest with
  | nil => exact .inr ⟨rfl, nofun⟩
  | cons d after =>
    by_cases hd : d.isDigit = true
    · obtain ⟨b, hb, rfl⟩ := exists_digitChar hd
      exact .inl ⟨b, hb, after, rfl, bothDigits_digitChar ha hb after⟩
    · refine .inr ⟨if_neg hd, fun b hb hhead => ?_⟩
      cases hhead
      exact hd (isDigit_digitChar b hb)

theorem piece?_name {p : Pattern} (hnames : p.names ≠ []) (rest : List Char) :
    piece? p ('<' :: rest) = match rest.span (· ≠ '>') with
      | (_, []) => none
      | (name, _ :: after) => some (.named name, after) := by
  unfold piece?
  simp [hnames]

theorem span_name {name : List Char} (hname : '>' ∉ name) (rest : List Char) :
    (name ++ '>' :: rest).span (· ≠ '>') = (name, '>' :: rest) := by
  have hall : ∀ c ∈ name, decide (c ≠ '>') = true := by
    intro c hc
    exact decide_eq_true fun h => hname (h ▸ hc)
  rw [List.span_eq_takeWhile_dropWhile, List.takeWhile_append_of_pos hall,
    List.dropWhile_append_of_pos hall]
  simp

theorem span_unclosed {cs : List Char} (h : '>' ∉ cs) : cs.span (· ≠ '>') = (cs, []) := by
  have hall : ∀ c ∈ cs, decide (c ≠ '>') = true := by
    intro c hc
    exact decide_eq_true fun heq => h (heq ▸ hc)
  rw [List.span_eq_takeWhile_dropWhile, List.takeWhile_eq_self_iff.mpr hall,
    List.dropWhile_eq_nil_iff.mpr hall]

theorem piece?_of_reference {p : Pattern} {cs rest : List Char} {piece : Piece}
    (h : Reference p cs piece rest) : piece? p cs = some (piece, rest) := by
  cases h with
  | dollar => rfl
  | whole => rfl
  | before => rfl
  | after => rfl
  | @twoDigits a b ha hb hlow hhigh =>
    rw [piece?_digit ha, bothDigits_digitChar ha hb, if_pos (by simp [hlow, hhigh])]
    rfl
  | @oneDigit a rest ha hlow hhigh hnext =>
    rw [piece?_digit ha]
    obtain ⟨b, hb, after, rfl, hboth⟩ | ⟨hboth, -⟩ := bothDigits_cases ha rest
    · have hout := hnext b hb rfl
      rw [hboth, if_neg (by simp; omega), if_pos (by simp [hlow, hhigh])]
    · rw [hboth, if_neg (by simp), if_pos (by simp [hlow, hhigh])]
  | named hnames hname => rw [piece?_name hnames, span_name hname]

theorem reference_of_piece? {p : Pattern} {cs rest : List Char} {piece : Piece}
    (h : piece? p cs = some (piece, rest)) : Reference p cs piece rest := by
  cases cs with
  | nil => cases h
  | cons c cs =>
    by_cases hdigit : c.isDigit = true
    · obtain ⟨a, ha, rfl⟩ := exists_digitChar hdigit
      rw [piece?_digit ha] at h
      simp only [Bool.and_eq_true, decide_eq_true_iff] at h
      obtain ⟨b, hb, after, rfl, hboth⟩ | ⟨hboth, hnext⟩ := bothDigits_cases ha cs
      · rw [hboth] at h
        split at h
        · rename_i hgroup
          cases h
          exact .twoDigits ha hb hgroup.1 hgroup.2 after
        split at h
        · rename_i hout hgroup
          cases h
          refine .oneDigit ha hgroup.1 hgroup.2 fun b' hb' hhead => ?_
          obtain rfl := digitChar_inj b hb b' hb' (Option.some.inj hhead)
          omega
        · cases h
      · rw [hboth, if_neg (by omega)] at h
        split at h
        · rename_i hgroup
          cases h
          exact .oneDigit ha hgroup.1 hgroup.2 fun b hb hhead => absurd hhead (hnext b hb)
        · cases h
    rw [piece?, if_neg hdigit] at h
    split at h
    · cases h
      subst c
      exact .dollar rest
    split at h
    · cases h
      subst c
      exact .whole rest
    split at h
    · cases h
      subst c
      exact .before rest
    split at h
    · cases h
      subst c
      exact .after rest
    split at h
    · rename_i hname
      obtain ⟨rfl, hnames⟩ := hname
      by_cases hclosed : '>' ∈ cs
      · obtain ⟨name, after, rfl, hname⟩ := List.eq_append_cons_of_mem hclosed
        rw [span_name hname] at h
        cases h
        exact .named hnames hname rest
      · rw [span_unclosed hclosed] at h
        cases h
    · cases h

theorem piece?_eq_none {p : Pattern} {cs : List Char}
    (hno : ∀ piece rest, ¬ Reference p cs piece rest) : piece? p cs = none := by
  rw [Option.eq_none_iff_forall_ne_some]
  intro r hr
  exact hno r.1 r.2 (reference_of_piece? hr)

example : piece? ⟨"", #[], 1, []⟩ "10".toList = some (.group 1, ['0']) := by decide

/-- A reference is made of signs at the beginning of the text. -/
theorem Reference.suffix {p : Pattern} {cs rest : List Char} {piece : Piece}
    (h : Reference p cs piece rest) : rest <:+ cs := by
  cases h with
  | dollar | whole | before | after | oneDigit => exact List.suffix_cons _ _
  | @twoDigits a b => exact ⟨[a.digitChar, b.digitChar], rfl⟩
  | @named name => exact ⟨'<' :: (name ++ ['>']), by simp⟩

/-! ## The reading -/

variable {p : Pattern} {cs : List Char} {pieces other : List Piece}

theorem exists_reads (p : Pattern) (cs : List Char) : ∃ pieces, Reads p cs pieces := by
  induction hlength : cs.length using Nat.strong_induction_on generalizing cs with
  | _ n ih =>
    subst hlength
    cases cs with
    | nil => exact ⟨[], .nil⟩
    | cons c cs =>
      by_cases hc : c = '$'
      · subst hc
        by_cases href : ∃ piece rest, Reference p cs piece rest
        · obtain ⟨piece, rest, href⟩ := href
          have hless : rest.length < ('$' :: cs).length :=
            Nat.lt_succ_of_le href.suffix.length_le
          obtain ⟨pieces, h⟩ := ih rest.length hless rest rfl
          exact ⟨piece :: pieces, .reference href h⟩
        · obtain ⟨pieces, h⟩ := ih cs.length (Nat.lt_succ_self _) cs rfl
          exact ⟨.literal '$' :: pieces, .alone (fun piece rest h => href ⟨piece, rest, h⟩) h⟩
      · obtain ⟨pieces, h⟩ := ih cs.length (Nat.lt_succ_self _) cs rfl
        exact ⟨.literal c :: pieces, .literal hc h⟩

theorem Reads.unique (h : Reads p cs pieces) (h' : Reads p cs other) : other = pieces := by
  induction h generalizing other with
  | nil => cases h'; rfl
  | literal hc h ih =>
    cases h' with
    | literal hc' h' => rw [ih h']
    | reference | alone => exact absurd rfl hc
  | reference href h ih =>
    cases h' with
    | literal hc' h' => exact absurd rfl hc'
    | reference href' h' =>
      cases (piece?_of_reference href).symm.trans (piece?_of_reference href')
      rw [ih h']
    | alone hno => exact absurd href (hno _ _)
  | alone hno h ih =>
    cases h' with
    | literal hc' h' => exact absurd rfl hc'
    | reference href' h' => exact absurd href' (hno _ _)
    | alone hno' h' => rw [ih h']

/-- A template is expanded piece by piece. -/
theorem expand_of_reads {x : Context} (h : Reads x.pattern cs pieces) :
    expand x cs = pieces.flatMap (Piece.text x) := by
  induction h with
  | nil => rw [expand]; rfl
  | literal hc h ih =>
    rw [expand, if_neg hc, ih]
    rfl
  | reference href h ih =>
    have hdrop := List.suffix_iff_eq_drop.mp href.suffix
    rw [expand, if_pos rfl, reference?_eq, piece?_of_reference href]
    dsimp only [Option.map_some]
    rw [← hdrop, ih]
    rfl
  | @alone cs pieces hno h ih =>
    rw [expand, if_pos rfl, reference?_eq, piece?_eq_none hno]
    dsimp only [Option.map_none]
    rw [ih]
    rfl

/-! ## Replacement -/

theorem length_groups_of_find? {input : List Char} {found : Match}
    (h : p.find? input = some found) : found.groups.length = p.groupCount := by
  unfold Pattern.find? at h
  split at h
  · cases h
  · obtain ⟨whole, -, rfl⟩ := Option.map_eq_some_iff.mp h
    simp

/-- **Replacement.** A template has exactly one reading under a pattern, and it does not depend on
the input. Where the pattern does not match, the input stays as it is; else the texts of the pieces
take the place of the match. The match of a compiled pattern is a part of the input, and every
number that is read as a group is the number of one. -/
theorem replaceFirst_reads (p : Pattern) (template : List Char) :
    ∃ pieces, Reads p template pieces ∧ (∀ other, Reads p template other → other = pieces) ∧
      (∀ input,
        (p.find? input = none → replaceFirst p input template = input) ∧
        ∀ found, p.find? input = some found →
          found.groups.length = p.groupCount ∧
          replaceFirst p input template =
            input.take found.whole.start ++ pieces.flatMap (Piece.text ⟨p, found, input⟩) ++
              input.drop found.whole.stop) ∧
      ∀ source, Pattern.compile source = .ok p → ∀ input found, p.find? input = some found →
        found.whole.start ≤ found.whole.stop ∧ found.whole.stop ≤ input.length := by
  obtain ⟨pieces, hreads⟩ := exists_reads p template
  refine ⟨pieces, hreads, fun other hother => hreads.unique hother, fun input => ⟨?_, ?_⟩, ?_⟩
  · intro hnone
    unfold replaceFirst
    rw [hnone]
  · intro found hfound
    refine ⟨length_groups_of_find? hfound, ?_⟩
    have hexpand := expand_of_reads (x := ⟨p, found, input⟩) hreads
    unfold replaceFirst
    rw [hfound]
    dsimp only
    rw [hexpand]
    rfl
  · intro source hcompile input found hfound
    exact Pattern.whole_of_find? hcompile hfound

/-! ## A template with names -/

/-- A match in which the first group took no part. -/
def matchOfBC : Match := ⟨⟨1, 3⟩, [none, some ⟨1, 2⟩]⟩

theorem exists_compile_optional : ∃ p, Pattern.compile "(a)?(?<_>b)c" = .ok p ∧
    p.groupCount = 2 ∧ p.names = [("_", 2)] ∧ p.find? "xbcy".toList = some matchOfBC := by
  have heval : ((Pattern.compile "(a)?(?<_>b)c").toOption.any fun p =>
      decide (p.groupCount = 2 ∧ p.names = [("_", 2)] ∧
        p.find? "xbcy".toList = some matchOfBC)) = true := by
    decide +kernel
  obtain ⟨p, hcompile, hholds⟩ := exists_ok_of_any heval
  exact ⟨p, hcompile, of_decide_eq_true hholds⟩

/-- A group that took no part and a name that no group has are empty, a digit too many stays, and
two dollar signs make one that refers to nothing. -/
theorem replaceFirst_reads_optional : ∃ p, Pattern.compile "(a)?(?<_>b)c" = .ok p ∧
    replaceFirst p "xbcy".toList "[$1$20$<_>$<m>$&$$1]".toList = "x[b0bbc$1]y".toList := by
  obtain ⟨p, hcompile, hcount, hnames, hfound⟩ := exists_compile_optional
  obtain ⟨pieces, -, hunique, hreplace, -⟩ := replaceFirst_reads p "[$1$20$<_>$<m>$&$$1]".toList
  have hsome : p.names ≠ [] := by simp [hnames]
  have hreads : Reads p "[$1$20$<_>$<m>$&$$1]".toList
      [.literal '[', .group 1, .group 2, .literal '0', .named ['_'], .named ['m'], .whole,
        .literal '$', .literal '1', .literal ']'] := by
    -- neither digit makes a number of a group with the next sign
    refine .literal (by decide) (.reference (.oneDigit (a := 1) (by decide) (by decide) (by omega)
      fun b _ _ => by omega) ?_)
    refine .reference (.oneDigit (a := 2) (by decide) (by decide) (by omega)
      fun b _ _ => by omega) (.literal (by decide) ?_)
    refine .reference (.named hsome (by decide : '>' ∉ ['_']) _) ?_
    refine .reference (.named hsome (by decide : '>' ∉ ['m']) _) ?_
    refine .reference (.whole _) (.reference (.dollar _) ?_)
    exact .literal (by decide) (.literal (by decide) .nil)
  obtain rfl := hunique _ hreads
  obtain ⟨-, htext⟩ := (hreplace "xbcy".toList).2 matchOfBC hfound
  refine ⟨p, hcompile, htext.trans ?_⟩
  simp [Piece.text, textAt, hnames, matchOfBC]

end Detour.Template
