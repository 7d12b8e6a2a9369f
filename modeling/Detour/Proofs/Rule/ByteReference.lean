import Detour.Proofs.Pattern.Groups
import Detour.Proofs.Rule.Substitution
import Detour.Proofs.Text.Boundary

/-!
# References in bytes

A reading of the references of a template that knows its texts only as bytes, and places in them
only as numbers of bytes (`Template.Source`). It fails where it looks at a byte or cuts a text that
is not there to be looked at or cut. It finds the references of the template
(`Template.Source.reference?_of_reference`, `Template.Source.reference?_of_not`).
-/

namespace Detour

/-- The place of a character in the bytes of the text. Places behind the text stay behind it. -/
def byteOffset (text : List Char) (n : ℕ) : ℕ := (utf8 (text.take n)).length + (n - text.length)

/-- The same part, counted in bytes. -/
def Span.inBytes (s : Span) (text : List Char) : Span :=
  ⟨byteOffset text s.start, byteOffset text s.stop⟩

/-- The same match, counted in bytes. -/
def Match.inBytes (found : Match) (text : List Char) : Match :=
  ⟨found.whole.inBytes text, found.groups.map (Option.map fun s => s.inBytes text)⟩

/-- The part of a text of bytes. -/
def Span.cut? (s : Span) (text : List UInt8) : Option (List UInt8) := slice? text s.start s.stop

theorem byteOffset_of_le {text : List Char} {n : ℕ} (h : n ≤ text.length) :
    byteOffset text n = (utf8 (text.take n)).length := by
  rw [byteOffset, Nat.sub_eq_zero_of_le h, Nat.add_zero]

theorem byteOffset_length (text : List Char) :
    byteOffset text text.length = (utf8 text).length := by
  rw [byteOffset_of_le (Nat.le_refl _), List.take_length]

/-- A part of the text is cut from its bytes. -/
theorem Span.cut?_inBytes {s : Span} {text : List Char} (h : s.start ≤ s.stop)
    (hstop : s.stop ≤ text.length) :
    (s.inBytes text).cut? (utf8 text) = some (utf8 (s.slice text)) := by
  have hfront : text.take s.start ++ s.slice text = text.take s.stop := by
    rw [← List.take_append_drop s.start (text.take s.stop), List.take_take, Nat.min_eq_left h]
    rfl
  have hcut := slice?_utf8 (text.take s.start) (s.slice text) (text.drop s.stop)
  rw [hfront, List.take_append_drop] at hcut
  rw [cut?, inBytes, byteOffset_of_le (Nat.le_trans h hstop), byteOffset_of_le hstop]
  exact hcut

namespace Template

/-- The value of a decimal digit. -/
def digit? (b : UInt8) : Option ℕ :=
  if '0'.toUInt8 ≤ b ∧ b ≤ '9'.toUInt8 then some (b.toNat - '0'.toNat) else none

/-- What an expansion reads: the pattern, the match in bytes of the input, the input, and the
template. -/
structure Source where
  pattern : Pattern
  found : Match
  input : List UInt8
  template : List UInt8

namespace Source

variable (x : Source)

/-- The text of a group, empty if the group took no part. -/
def group? (n : ℕ) : Option (List UInt8) :=
  match x.found.groups[n - 1]? with
  | some (some s) => s.cut? x.input
  | _ => some []

/-- Is there a group of that number? -/
def hasGroup (n : ℕ) : Bool := 1 ≤ n && n ≤ x.found.groups.length

/-- The text of the group with the given name, empty if there is none. -/
def named? (name : List UInt8) : Option (List UInt8) :=
  match x.pattern.names.find? fun n => bytesOf n.1 = name with
  | some n => x.group? n.2
  | none => some []

/-- The reference at the dollar sign at `i`, if a digit follows. -/
def numbered? (i first : ℕ) : Option (ℕ × List UInt8) :=
  match ((x.template[i + 2]?.bind digit?).map (10 * first + ·)).filter x.hasGroup with
  | some n => (x.group? n).map (3, ·)
  | none => if x.hasGroup first then (x.group? first).map (2, ·) else some (0, [])

/-- The reference at the dollar sign at `i`, if an angle bracket follows. -/
def bracketed? (i : ℕ) : Option (ℕ × List UInt8) :=
  match slice? x.template (i + 2) x.template.length with
  | none => none
  | some rest =>
    match rest.idxOf? '>'.toUInt8 with
    | none => some (0, [])
    | some stop =>
      match slice? x.template (i + 2) (i + 2 + stop) with
      | none => none
      | some name => (x.named? name).map (stop + 3, ·)

/-- The reference at the dollar sign at `i`: how many bytes it takes, none if it is no reference,
and the text that it stands for. -/
def reference? (i : ℕ) : Option (ℕ × List UInt8) :=
  match x.template[i + 1]? with
  | none => none
  | some b =>
    if b = '$'.toUInt8 then some (2, ['$'.toUInt8])
    else if b = '&'.toUInt8 then (x.found.whole.cut? x.input).map (2, ·)
    else if b = '\x60'.toUInt8 then (slice? x.input 0 x.found.whole.start).map (2, ·)
    else if b = '\''.toUInt8 then (slice? x.input x.found.whole.stop x.input.length).map (2, ·)
    else
      match digit? b with
      | some first => x.numbered? i first
      | none =>
        if b = '<'.toUInt8 ∧ x.pattern.names ≠ [] then x.bracketed? i else some (0, [])

end Source

namespace Context

theorem hasGroup_iff {x : Context} {n : ℕ} :
    x.hasGroup n = true ↔ 1 ≤ n ∧ n ≤ x.pattern.groupCount := by
  rw [hasGroup, Bool.and_eq_true, decide_eq_true_eq, decide_eq_true_eq]

/-- What the expansion of a template reads, as bytes. -/
def bytes (x : Context) (template : List Char) : Source :=
  ⟨x.pattern, x.found.inBytes x.input, utf8 x.input, utf8 template⟩

/-- The spans of the match lie within the input, and there is one, if only an open one, for each
group of the pattern. -/
structure IsSound (x : Context) : Prop where
  whole : x.found.whole.start ≤ x.found.whole.stop ∧ x.found.whole.stop ≤ x.input.length
  groups : ∀ s, some s ∈ x.found.groups → s.start ≤ s.stop ∧ s.stop ≤ x.input.length
  count : x.found.groups.length = x.pattern.groupCount

/-- A match of a compiled pattern is sound. -/
theorem isSound_of_find? {source : String} {p : Pattern} (h : Pattern.compile source = .ok p)
    {input : List Char} {found : Match} (hf : p.find? input = some found) :
    IsSound ⟨p, found, input⟩ where
  whole := Pattern.whole_of_find? h hf
  groups _ hs := Pattern.group_of_find? h hf hs
  count := length_groups_of_find? hf

variable {x : Context} (hx : x.IsSound) (template : List Char)

include hx

theorem IsSound.cut?_before :
    slice? (utf8 x.input) 0 (x.found.inBytes x.input).whole.start =
      some (utf8 (x.found.whole.before x.input)) := by
  have hcut := Span.cut?_inBytes (s := ⟨0, x.found.whole.start⟩) (Nat.zero_le _)
    (Nat.le_trans hx.whole.1 hx.whole.2)
  have hzero : byteOffset x.input 0 = 0 := by rw [byteOffset_of_le (Nat.zero_le _)]; rfl
  rw [Span.cut?, Span.inBytes, hzero] at hcut
  exact hcut

theorem IsSound.cut?_after :
    slice? (utf8 x.input) (x.found.inBytes x.input).whole.stop (utf8 x.input).length =
      some (utf8 (x.found.whole.after x.input)) := by
  have hcut := Span.cut?_inBytes (s := ⟨x.found.whole.stop, x.input.length⟩) hx.whole.2
    (Nat.le_refl _)
  rw [Span.cut?, Span.inBytes, byteOffset_length, Span.slice, List.take_length] at hcut
  exact hcut

theorem IsSound.group?_bytes (n : ℕ) : (x.bytes template).group? n = some (utf8 (x.group n)) := by
  have hgroups : (x.bytes template).found.groups[n - 1]? =
      x.found.groups[n - 1]?.map (Option.map fun s => s.inBytes x.input) := List.getElem?_map
  rw [Source.group?, group, hgroups]
  cases hgroup : x.found.groups[n - 1]? with
  | none => rfl
  | some s =>
    cases s with
    | none => rfl
    | some s =>
      obtain ⟨hstart, hstop⟩ := hx.groups s (List.mem_of_getElem? hgroup)
      exact Span.cut?_inBytes hstart hstop

theorem IsSound.hasGroup_bytes (n : ℕ) : (x.bytes template).hasGroup n = x.hasGroup n := by
  have hlength : (x.bytes template).found.groups.length = x.pattern.groupCount := by
    rw [← hx.count]
    exact List.length_map _
  rw [Source.hasGroup, hasGroup, hlength]

theorem IsSound.named?_bytes (name : List Char) :
    (x.bytes template).named? (utf8 name) = some (utf8 (x.named name)) := by
  have hsame : (fun n : String × ℕ => decide (bytesOf n.1 = utf8 name)) =
      fun n => decide (n.1 = String.ofList name) := by
    funext n
    rw [← utf8_toList, decide_eq_decide, utf8_inj, ← String.toList_inj, String.toList_ofList]
  rw [Source.named?, named, Pattern.groupNamed?]
  show (match x.pattern.names.find? fun n => bytesOf n.1 = utf8 name with
    | some n => (x.bytes template).group? n.2
    | none => some []) = _
  rw [hsame]
  cases x.pattern.names.find? fun n => decide (n.1 = String.ofList name) with
  | none => rfl
  | some n => exact hx.group?_bytes template n.2

end Context

/-! ## Places in the template -/

/-- The byte at the end of the first of two parts of a text. -/
theorem getElem?_utf8_append (front back : List Char) :
    (utf8 (front ++ back))[(utf8 front).length]? = back.head?.map leadByte := by
  rw [utf8_append, List.getElem?_append_right (Nat.le_refl _), Nat.sub_self, getElem?_utf8_zero]

/-- Signs of ASCII are one byte long. -/
theorem length_utf8_of_ascii {signs : List Char} (h : signs.all (·.toNat < 128) = true) :
    (utf8 signs).length = signs.length := by
  induction signs with
  | nil => rfl
  | cons c signs ih =>
    rw [List.all_cons, Bool.and_eq_true, decide_eq_true_eq] at h
    obtain ⟨hc, hsigns⟩ := h
    rw [utf8_cons, utf8EncodeChar_ascii hc, List.singleton_append, List.length_cons, ih hsigns,
      List.length_cons]

theorem length_utf8_append (front : List Char) {signs : List Char}
    (h : signs.all (·.toNat < 128) = true) :
    (utf8 (front ++ signs)).length = (utf8 front).length + signs.length := by
  rw [utf8_append, List.length_append, length_utf8_of_ascii h]

theorem length_utf8_dollar (front : List Char) :
    (utf8 (front ++ ['$'])).length = (utf8 front).length + 1 :=
  length_utf8_append front (by decide)

theorem length_utf8_bracket (front : List Char) :
    (utf8 (front ++ ['$', '<'])).length = (utf8 front).length + 2 :=
  length_utf8_append front (by decide)

theorem getElem?_utf8_ascii {c : Char} (h : c.toNat < 128) (front back : List Char) :
    (utf8 (front ++ c :: back))[(utf8 front).length]? = some c.toUInt8 := by
  rw [getElem?_utf8_append, List.head?_cons, Option.map_some, leadByte_ascii h]

theorem getElem?_utf8_dollar (front : List Char) (c : Char) (rest : List Char) :
    (utf8 (front ++ '$' :: c :: rest))[(utf8 front).length + 1]? = some (leadByte c) := by
  have hparts := getElem?_utf8_append (front ++ ['$']) (c :: rest)
  rw [length_utf8_dollar, List.append_assoc] at hparts
  exact hparts

theorem length_utf8_dollar_ne (front : List Char) (c : Char) (rest : List Char) :
    (utf8 front).length + 1 ≠ (utf8 (front ++ '$' :: c :: rest)).length := by
  have hrest : 0 < (utf8 (c :: rest)).length := List.length_pos_of_ne_nil utf8_cons_ne_nil
  have hsplit : front ++ '$' :: c :: rest = front ++ ['$'] ++ c :: rest := by
    rw [List.append_assoc]
    rfl
  rw [hsplit, utf8_append, List.length_append, length_utf8_dollar]
  omega

theorem toNat_digitChar_lt : ∀ a < 10, a.digitChar.toNat < 128 := by decide

theorem toNat_digitChar : ∀ a < 10, a.digitChar.toNat - '0'.toNat = a := by decide

theorem digit?_leadByte (c : Char) :
    digit? (leadByte c) = if c.isDigit then some (c.toNat - '0'.toNat) else none := by
  have hchar : c.isDigit = true ↔ 48 ≤ c.toNat ∧ c.toNat ≤ 57 := by
    simp [Char.isDigit, UInt32.le_iff_toNat_le]
  have hbyte : '0'.toUInt8 ≤ leadByte c ∧ leadByte c ≤ '9'.toUInt8 ↔
      48 ≤ (leadByte c).toNat ∧ (leadByte c).toNat ≤ 57 := by
    rw [UInt8.le_iff_toNat_le, UInt8.le_iff_toNat_le]
    rfl
  unfold digit?
  by_cases hc : c.toNat < 128
  · have hnat : (leadByte c).toNat = c.toNat := by rw [leadByte_ascii hc, toNat_toUInt8 hc]
    simp only [hbyte, hchar, hnat]
  · have hmin := le_leadByte hc
    rw [if_neg fun h => ?_, if_neg fun h => ?_]
    · have hmax := (hchar.mp h).2
      omega
    · have hmax := (hbyte.mp h).2
      omega

theorem length_utf8_name (name : List Char) :
    (utf8 ('$' :: '<' :: (name ++ ['>']))).length = (utf8 name).length + 3 := by
  show (utf8 (['$', '<'] ++ (name ++ ['>']))).length = _
  rw [utf8_append, List.length_append, length_utf8_append _ (by decide),
    length_utf8_of_ascii (by decide)]
  simp only [List.length_cons, List.length_nil]
  omega

theorem idxOf?_utf8 {name : List Char} (hname : '>' ∉ name) (after : List Char) :
    (utf8 (name ++ '>' :: after)).idxOf? '>'.toUInt8 = some (utf8 name).length := by
  have hnone : (utf8 name).idxOf? '>'.toUInt8 = none :=
    List.idxOf?_eq_none_iff.mpr fun h => hname ((mem_utf8_iff (by decide)).mp h)
  unfold List.idxOf? at hnone ⊢
  rw [utf8_append, List.findIdx?_append, hnone, Option.none_or, utf8_cons,
    utf8EncodeChar_ascii (by decide), List.singleton_append, List.findIdx?_cons,
    if_pos (beq_self_eq_true _), Option.map_some, Nat.zero_add]

/-- A closing bracket among the bytes of a text is the first one of the text. -/
theorem exists_of_idxOf?_utf8 {cs : List Char} {stop : ℕ}
    (h : (utf8 cs).idxOf? '>'.toUInt8 = some stop) :
    ∃ name after, cs = name ++ '>' :: after ∧ stop = (utf8 name).length := by
  have hclosed : '>' ∈ cs := by
    by_contra hopen
    have hnone := List.idxOf?_eq_none_iff.mpr fun h => hopen ((mem_utf8_iff (by decide)).mp h)
    exact absurd (hnone.symm.trans h) nofun
  obtain ⟨name, after, rfl, hopen⟩ := List.eq_append_cons_of_mem hclosed
  exact ⟨name, after, rfl, Option.some.inj (h.symm.trans (idxOf?_utf8 hopen after))⟩

theorem drop_utf8_bracket (front rest : List Char) :
    (utf8 (front ++ '$' :: '<' :: rest)).drop ((utf8 front).length + 2) = utf8 rest := by
  have hsplit : front ++ '$' :: '<' :: rest = front ++ ['$', '<'] ++ rest :=
    (List.append_assoc front ['$', '<'] rest).symm
  rw [hsplit, utf8_append, List.drop_left' (length_utf8_bracket front)]

/-! ## References -/

section References

variable {x : Context} (hx : x.IsSound) (front : List Char)

include hx

/-- The bytes after a dollar sign are looked at as signs. -/
theorem reference?_bytes (c : Char) (rest : List Char) :
    (x.bytes (front ++ '$' :: c :: rest)).reference? (utf8 front).length =
      if c = '$' then some (2, utf8 ['$'])
      else if c = '&' then some (2, utf8 (Piece.whole.text x))
      else if c = '\x60' then some (2, utf8 (Piece.before.text x))
      else if c = '\'' then some (2, utf8 (Piece.after.text x))
      else if c.isDigit then
        (x.bytes (front ++ '$' :: c :: rest)).numbered? (utf8 front).length (c.toNat - '0'.toNat)
      else if c = '<' ∧ x.pattern.names ≠ [] then
        (x.bytes (front ++ '$' :: c :: rest)).bracketed? (utf8 front).length
      else some (0, []) := by
  have hbyte : (x.bytes (front ++ '$' :: c :: rest)).template[(utf8 front).length + 1]? =
      some (leadByte c) := getElem?_utf8_dollar front c rest
  unfold Source.reference?
  rw [hbyte]
  dsimp only
  rw [digit?_leadByte]
  simp only [leadByte_eq_iff (x := '$') (by decide), leadByte_eq_iff (x := '&') (by decide),
    leadByte_eq_iff (x := '\x60') (by decide), leadByte_eq_iff (x := '\'') (by decide),
    leadByte_eq_iff (x := '<') (by decide)]
  have hwhole : (x.bytes (front ++ '$' :: c :: rest)).found.whole.cut?
      (x.bytes (front ++ '$' :: c :: rest)).input = some (utf8 (Piece.whole.text x)) :=
    Span.cut?_inBytes hx.whole.1 hx.whole.2
  have hbefore : slice? (x.bytes (front ++ '$' :: c :: rest)).input 0
      (x.bytes (front ++ '$' :: c :: rest)).found.whole.start =
        some (utf8 (Piece.before.text x)) := hx.cut?_before
  have hafter : slice? (x.bytes (front ++ '$' :: c :: rest)).input
      (x.bytes (front ++ '$' :: c :: rest)).found.whole.stop
      (x.bytes (front ++ '$' :: c :: rest)).input.length = some (utf8 (Piece.after.text x)) :=
    hx.cut?_after
  rw [hwhole, hbefore, hafter]
  by_cases hdigit : c.isDigit = true
  · simp only [if_pos hdigit]
    rfl
  · simp only [if_neg hdigit]
    rfl

/-- A digit is read together with the next one if there is such a group. -/
theorem reference?_digit {a : ℕ} (ha : a < 10) (rest : List Char) :
    (x.bytes (front ++ '$' :: a.digitChar :: rest)).reference? (utf8 front).length =
      if x.hasGroup (bothDigits a.digitChar rest) then
        some (3, utf8 (x.group (bothDigits a.digitChar rest)))
      else if x.hasGroup a then some (2, utf8 (x.group a))
      else some (0, []) := by
  have hgroups : (x.bytes (front ++ '$' :: a.digitChar :: rest)).hasGroup = x.hasGroup :=
    funext fun n => hx.hasGroup_bytes _ n
  have hnext : (x.bytes (front ++ '$' :: a.digitChar :: rest)).template[(utf8 front).length + 2]? =
      rest.head?.map leadByte := by
    have hascii : ['$', a.digitChar].all (·.toNat < 128) = true := by
      simp [toNat_digitChar_lt a ha]
    have hparts := getElem?_utf8_append (front ++ ['$', a.digitChar]) rest
    rw [length_utf8_append _ hascii, List.append_assoc] at hparts
    exact hparts
  rw [reference?_bytes hx, if_neg (digitChar_ne ha rfl), if_neg (digitChar_ne ha rfl),
    if_neg (digitChar_ne ha rfl), if_neg (digitChar_ne ha rfl), if_pos (isDigit_digitChar a ha),
    toNat_digitChar a ha, Source.numbered?, hnext, hgroups, hx.group?_bytes, Option.map_some]
  obtain ⟨b, hb, after, rfl, hboth⟩ | ⟨hboth, hno⟩ := bothDigits_cases ha rest
  · rw [hboth, List.head?_cons, Option.map_some, Option.bind_some, digit?_leadByte,
      if_pos (isDigit_digitChar b hb), toNat_digitChar b hb, Option.map_some, Option.filter_some]
    by_cases hgroup : x.hasGroup (10 * a + b) = true
    · rw [if_pos hgroup, if_pos hgroup]
      dsimp only
      rw [hx.group?_bytes, Option.map_some]
    · rw [if_neg hgroup, if_neg hgroup]
  · have hnone : (rest.head?.map leadByte).bind digit? = none := by
      cases rest with
      | nil => rfl
      | cons d after =>
        have hd : ¬ d.isDigit = true := by
          intro hd
          obtain ⟨b, hb, rfl⟩ := exists_digitChar hd
          exact hno b hb rfl
        exact (digit?_leadByte d).trans (if_neg hd)
    rw [hnone, hboth, if_neg (show ¬ x.hasGroup 0 = true from Bool.noConfusion)]
    rfl

/-- A bracket is closed by the next sign that closes one. -/
theorem reference?_bracket (hnames : x.pattern.names ≠ []) (rest : List Char) :
    (x.bytes (front ++ '$' :: '<' :: rest)).reference? (utf8 front).length =
      match (utf8 rest).idxOf? '>'.toUInt8 with
      | none => some (0, [])
      | some stop =>
        match slice? (utf8 (front ++ '$' :: '<' :: rest)) ((utf8 front).length + 2)
          ((utf8 front).length + 2 + stop) with
        | none => none
        | some name =>
          ((x.bytes (front ++ '$' :: '<' :: rest)).named? name).map (stop + 3, ·) := by
  have hrest : slice? (utf8 (front ++ '$' :: '<' :: rest)) ((utf8 front).length + 2)
      (utf8 (front ++ '$' :: '<' :: rest)).length = some (utf8 rest) := by
    have hcut := slice?_utf8 (front ++ ['$', '<']) rest []
    rw [List.append_nil, length_utf8_bracket, List.append_assoc] at hcut
    exact hcut
  rw [reference?_bytes hx, if_neg (by decide), if_neg (by decide), if_neg (by decide),
    if_neg (by decide), if_neg (by decide), if_pos ⟨rfl, hnames⟩, Source.bracketed?]
  show (match slice? (utf8 (front ++ '$' :: '<' :: rest)) ((utf8 front).length + 2)
    (utf8 (front ++ '$' :: '<' :: rest)).length with
    | none => none
    | some rest => _) = _
  rw [hrest]
  rfl

theorem reference?_named {name : List Char} (hnames : x.pattern.names ≠ []) (hname : '>' ∉ name)
    (rest : List Char) :
    (x.bytes (front ++ '$' :: '<' :: (name ++ '>' :: rest))).reference? (utf8 front).length =
      some ((utf8 name).length + 3, utf8 (x.named name)) := by
  have hslice : slice? (utf8 (front ++ '$' :: '<' :: (name ++ '>' :: rest)))
      ((utf8 front).length + 2) ((utf8 front).length + 2 + (utf8 name).length) =
        some (utf8 name) := by
    have hcut := slice?_utf8 (front ++ ['$', '<']) name ('>' :: rest)
    rw [utf8_append (front ++ _) name, List.length_append, length_utf8_bracket, List.append_assoc,
      List.append_assoc] at hcut
    exact hcut
  rw [reference?_bracket hx front hnames, idxOf?_utf8 hname]
  dsimp only
  rw [hslice]
  dsimp only
  rw [hx.named?_bytes, Option.map_some]

/-- A reference of the template takes all its bytes, and stands for the text of its piece. -/
theorem reference?_of_reference {cs rest : List Char} {piece : Piece}
    (h : Reference x.pattern cs piece rest) : ∃ signs, cs = signs ++ rest ∧
      (x.bytes (front ++ '$' :: cs)).reference? (utf8 front).length =
        some ((utf8 ('$' :: signs)).length, utf8 (piece.text x)) := by
  cases h with
  | dollar => exact ⟨['$'], rfl, reference?_bytes hx front '$' rest⟩
  | whole => exact ⟨['&'], rfl, reference?_bytes hx front '&' rest⟩
  | before => exact ⟨['\x60'], rfl, reference?_bytes hx front '\x60' rest⟩
  | after => exact ⟨['\''], rfl, reference?_bytes hx front '\'' rest⟩
  | @twoDigits a b ha hb hlow hhigh =>
    refine ⟨[a.digitChar, b.digitChar], rfl, ?_⟩
    have hascii : ['$', a.digitChar, b.digitChar].all (·.toNat < 128) = true := by
      simp [toNat_digitChar_lt a ha, toNat_digitChar_lt b hb]
    rw [reference?_digit hx front ha, bothDigits_digitChar ha hb,
      if_pos (Context.hasGroup_iff.mpr ⟨hlow, hhigh⟩), length_utf8_of_ascii hascii,
      Piece.text_group]
    rfl
  | @oneDigit a _ ha hlow hhigh hnext =>
    have hboth : ¬ x.hasGroup (bothDigits a.digitChar rest) = true := by
      rw [Context.hasGroup_iff]
      obtain ⟨b, hb, after, rfl, hboth⟩ | ⟨hboth, -⟩ := bothDigits_cases ha rest
      · have hout := hnext b hb rfl
        omega
      · omega
    refine ⟨[a.digitChar], rfl, ?_⟩
    have hascii : ['$', a.digitChar].all (·.toNat < 128) = true := by
      simp [toNat_digitChar_lt a ha]
    rw [reference?_digit hx front ha, if_neg hboth,
      if_pos (Context.hasGroup_iff.mpr ⟨hlow, hhigh⟩), length_utf8_of_ascii hascii,
      Piece.text_group]
    rfl
  | @named name hnames hname =>
    refine ⟨'<' :: (name ++ ['>']), by simp, ?_⟩
    rw [reference?_named hx front hnames hname, length_utf8_name, Piece.text_named]

/-- A dollar sign that begins no reference takes no bytes. -/
theorem reference?_of_not {c : Char} {rest : List Char}
    (hno : ∀ piece after, ¬ Reference x.pattern (c :: rest) piece after) :
    (x.bytes (front ++ '$' :: c :: rest)).reference? (utf8 front).length = some (0, []) := by
  by_cases hdigit : c.isDigit = true
  · obtain ⟨a, ha, rfl⟩ := exists_digitChar hdigit
    have hnone := piece?_eq_none hno
    rw [piece?_digit ha] at hnone
    rw [reference?_digit hx front ha]
    unfold Context.hasGroup
    split at hnone
    · cases hnone
    split at hnone
    · cases hnone
    rw [if_neg ‹_›, if_neg ‹_›]
  have hdollar : c ≠ '$' := by
    rintro rfl
    exact hno _ _ (.dollar rest)
  have hwhole : c ≠ '&' := by
    rintro rfl
    exact hno _ _ (.whole rest)
  have hbefore : c ≠ '\x60' := by
    rintro rfl
    exact hno _ _ (.before rest)
  have hafter : c ≠ '\'' := by
    rintro rfl
    exact hno _ _ (.after rest)
  by_cases hname : c = '<' ∧ x.pattern.names ≠ []
  · obtain ⟨rfl, hnames⟩ := hname
    have hopen : '>' ∉ rest := by
      intro hclosed
      obtain ⟨name, after, rfl, hname⟩ := List.eq_append_cons_of_mem hclosed
      exact hno _ _ (.named hnames hname after)
    rw [reference?_bracket hx front hnames,
      List.idxOf?_eq_none_iff.mpr fun h => hopen ((mem_utf8_iff (by decide)).mp h)]
  · rw [reference?_bytes hx, if_neg hdollar, if_neg hwhole, if_neg hbefore, if_neg hafter,
      if_neg hdigit, if_neg hname]

end References

end Template

end Detour
