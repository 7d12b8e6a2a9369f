import Detour.Proofs.Json.Scalar

/-!
# Reading written values

A value without floating-point numbers is read back from its text, if its integers have 64 bits, its
objects list their members by ascending names, and it is not nested too deeply
(`Json.ofText_render`).
-/

namespace Detour

/-! ## Plain values -/

mutual

/-- The values nested at most `depth` deep that reading gives back: no floating-point numbers, words
as integers, and objects with ascending members. -/
def Json.Plain : ℕ → Json → Prop
  | _, .null => True
  | _, .bool _ => True
  | _, .int n => JsonText.IsWord n
  | _, .float _ => False
  | _, .string _ => True
  | 0, .array _ => False
  | depth + 1, .array items => Json.PlainItems depth items
  | 0, .object _ => False
  | depth + 1, .object members =>
    Json.ofMembers members = .object members ∧ Json.PlainMembers depth members

def Json.PlainItems : ℕ → List Json → Prop
  | _, [] => True
  | depth, v :: items => Json.Plain depth v ∧ Json.PlainItems depth items

def Json.PlainMembers : ℕ → List (String × Json) → Prop
  | _, [] => True
  | depth, (_, v) :: members => Json.Plain depth v ∧ Json.PlainMembers depth members

end

theorem Json.plainMembers_iff {depth : ℕ} {members : List (String × Json)} :
    PlainMembers depth members ↔ ∀ m ∈ members, m.2.Plain depth := by
  induction members with
  | nil => exact iff_of_true trivial (List.forall_mem_nil _)
  | cons m members ih => rw [List.forall_mem_cons, ← ih]; rfl

theorem Json.plainItems_iff {depth : ℕ} {items : List Json} :
    PlainItems depth items ↔ ∀ v ∈ items, v.Plain depth := by
  induction items with
  | nil => exact iff_of_true trivial (List.forall_mem_nil _)
  | cons v items ih => rw [List.forall_mem_cons, ← ih]; rfl

theorem Json.plain_string (depth : ℕ) (s : String) : (Json.string s).Plain depth := by
  cases depth <;> trivial

theorem Json.plain_nat {n : ℕ} (h : n ≤ JsonText.maxSignificand) (depth : ℕ) :
    (Json.nat n).Plain depth := by
  have hword : JsonText.IsWord n := ⟨by omega, Int.ofNat_le.mpr h⟩
  cases depth <;> exact hword

namespace JsonText

theorem skipBlanks_cons {c : Char} (h : isBlank c = false) (cs : List Char) :
    skipBlanks (c :: cs) = c :: cs := by
  unfold skipBlanks; rw [List.dropWhile_cons, h]; rfl

/-- No value begins with a blank. -/
theorem isBlank_of_isOpening {c : Char} (h : isOpening c = true) : isBlank c = false := by
  have h1 := ne_of_isOpening h (d := ' ') (by decide)
  have h2 := ne_of_isOpening h (d := '\n') (by decide)
  have h3 := ne_of_isOpening h (d := '\t') (by decide)
  have h4 := ne_of_isOpening h (d := '\r') (by decide)
  simp [isBlank, h1, h2, h3, h4]

theorem readValue_of_isNumeric {c : Char} (h : isNumeric c = true) (fuel depth : ℕ)
    (cs : List Char) :
    readValue .full (fuel + 1) depth (c :: cs) = readNumber .full (c :: cs) := by
  have h1 := ne_of_isNumeric h (d := 'n') (by decide)
  have h2 := ne_of_isNumeric h (d := 't') (by decide)
  have h3 := ne_of_isNumeric h (d := 'f') (by decide)
  have h4 := ne_of_isNumeric h (d := '"') (by decide)
  have h5 := ne_of_isNumeric h (d := '[') (by decide)
  have h6 := ne_of_isNumeric h (d := '\x7b') (by decide)
  simp [readValue, skipBlanks_cons (isBlank_of_isOpening (isOpening_of_isNumeric h)), h1, h2, h3,
    h4, h5, h6]

theorem expectWord_append (word : List Char) (v : Json) (rest : List Char) :
    expectWord word v (word ++ rest) = .ok (v, rest) := by
  unfold expectWord
  rw [if_pos (List.isPrefixOf_iff_prefix.mpr (List.prefix_append word rest)), List.drop_left]

/-! ## The first character -/

theorem renderItems_cons (v : Json) (items : List Json) :
    ∃ c cs, renderItems (v :: items) = c :: cs ∧ isOpening c = true := by
  obtain ⟨c, cs, hv, hc⟩ := renderValue_cons v
  cases items with
  | nil => exact ⟨c, cs ++ [']'], by rw [renderItems, hv, List.cons_append], hc⟩
  | cons w items =>
    refine ⟨c, cs ++ ',' :: renderItems (w :: items), ?_, hc⟩
    show renderValue v ++ ',' :: renderItems (w :: items) = _
    rw [hv, List.cons_append]

theorem renderMembers_cons (name : String) (v : Json) (members : List (String × Json)) :
    ∃ cs, renderMembers ((name, v) :: members) = '"' :: cs := by
  cases members with
  | nil => exact ⟨_, rfl⟩
  | cons m members => exact ⟨_, rfl⟩

/-! ## One item, one member -/

section Steps

variable {fuel depth : ℕ} {v : Json} {cs rest : List Char}

/-- An array that is not empty. -/
theorem readValue_bracket {c : Char} (h : isOpening c = true) :
    readValue .full (fuel + 1) (depth + 1) ('[' :: c :: cs) =
      readItems .full fuel depth [] (c :: cs) := by
  have hbracket := ne_of_isOpening h (d := ']') (by decide)
  rw [readValue, skipBlanks_cons rfl]
  simp only [skipBlanks_cons (isBlank_of_isOpening h)]
  split
  · rename_i h; simp at h
  · split
    · rename_i h; exact absurd (List.cons.inj h).1 hbracket
    · rfl

/-- An object that is not empty. -/
theorem readValue_brace :
    readValue .full (fuel + 1) (depth + 1) ('\x7b' :: '"' :: cs) =
      readMembers .full fuel depth [] ('"' :: cs) := rfl

theorem readItems_last (acc : List Json)
    (h : readValue .full fuel depth cs = .ok (v, ']' :: rest)) :
    readItems .full (fuel + 1) depth acc cs = .ok (.array (v :: acc).reverse, rest) := by
  rw [readItems, h]; rfl

theorem readItems_more (acc : List Json)
    (h : readValue .full fuel depth cs = .ok (v, ',' :: rest)) :
    readItems .full (fuel + 1) depth acc cs = readItems .full fuel depth (v :: acc) rest := by
  rw [readItems, h]; rfl

/-- What follows the value of a member. -/
def afterMember (fuel depth : ℕ) (name : String) (acc : List (String × Json)) :
    Except JsonError (Json × List Char) → Except JsonError (Json × List Char)
  | .error e => .error e
  | .ok (v, rest) =>
    match skipBlanks rest with
    | ',' :: rest => readMembers .full fuel depth ((name, v) :: acc) rest
    | '\x7d' :: rest => .ok (Json.ofMembers ((name, v) :: acc).reverse, rest)
    | _ => .error .malformed

theorem readMembers_renderString (name : String) (acc : List (String × Json)) :
    readMembers .full (fuel + 1) depth acc (renderString name ++ ':' :: cs) =
      afterMember fuel depth name acc (readValue .full fuel depth cs) := by
  have hname := readString_renderString name (':' :: cs)
  have htext : renderString name ++ ':' :: cs =
      '"' :: (name.toList.flatMap escapeChar ++ '"' :: ':' :: cs) := by
    unfold renderString; simp
  rw [htext, readMembers, skipBlanks_cons rfl]
  simp only [hname]
  rw [skipBlanks_cons rfl]
  rfl

theorem readMembers_last (name : String) (acc : List (String × Json))
    (h : readValue .full fuel depth cs = .ok (v, '\x7d' :: rest)) :
    readMembers .full (fuel + 1) depth acc (renderString name ++ ':' :: cs) =
      .ok (Json.ofMembers ((name, v) :: acc).reverse, rest) := by
  rw [readMembers_renderString, h]; rfl

theorem readMembers_more (name : String) (acc : List (String × Json))
    (h : readValue .full fuel depth cs = .ok (v, ',' :: rest)) :
    readMembers .full (fuel + 1) depth acc (renderString name ++ ':' :: cs) =
      readMembers .full fuel depth ((name, v) :: acc) rest := by
  rw [readMembers_renderString, h]; rfl

end Steps

/-! ## Values -/

theorem endsNumber_comma (cs : List Char) : EndsNumber (',' :: cs) := endsNumber_cons (by decide) cs

theorem endsNumber_bracket (cs : List Char) : EndsNumber (']' :: cs) :=
  endsNumber_cons (by decide) cs

theorem endsNumber_brace (cs : List Char) : EndsNumber ('\x7d' :: cs) :=
  endsNumber_cons (by decide) cs

theorem length_renderValue_pos (v : Json) : 0 < (renderValue v).length := by
  obtain ⟨c, cs, hv, -⟩ := renderValue_cons v
  rw [hv]; exact Nat.succ_pos _

theorem renderItems_more (v w : Json) (items : List Json) :
    renderItems (v :: w :: items) = renderValue v ++ ',' :: renderItems (w :: items) := rfl

theorem renderMembers_last (name : String) (v : Json) :
    renderMembers [(name, v)] = renderString name ++ ':' :: (renderValue v ++ ['\x7d']) := by
  simp [renderMembers]

theorem renderMembers_more (name : String) (v : Json) (m : String × Json)
    (members : List (String × Json)) :
    renderMembers ((name, v) :: m :: members) =
      renderString name ++ ':' :: (renderValue v ++ ',' :: renderMembers (m :: members)) := by
  simp [renderMembers]

/-- A value takes less room than the members that begin with it. -/
theorem length_renderValue_lt_renderMembers (name : String) (v : Json)
    (members : List (String × Json)) :
    (renderValue v).length < (renderMembers ((name, v) :: members)).length := by
  cases members with
  | nil =>
    rw [renderMembers_last]
    simp only [List.length_append, List.length_cons]
    omega
  | cons m members =>
    rw [renderMembers_more]
    simp only [List.length_append, List.length_cons]
    omega

mutual

/-- A plain value is read back, whatever follows it. Each of its characters is worth two units of
fuel. -/
theorem readValue_renderValue : ∀ (v : Json) (depth fuel : ℕ) (rest : List Char),
    v.Plain depth → 2 * (renderValue v).length ≤ fuel → EndsNumber rest →
      readValue .full fuel depth (renderValue v ++ rest) = .ok (v, rest)
  | v, _, 0, _, _, hfuel, _ => by have := length_renderValue_pos v; omega
  | .null, _, fuel + 1, rest, _, _, _ => expectWord_append ['u', 'l', 'l'] .null rest
  | .bool true, _, fuel + 1, rest, _, _, _ => expectWord_append ['r', 'u', 'e'] (.bool true) rest
  | .bool false, _, fuel + 1, rest, _, _, _ =>
    expectWord_append ['a', 'l', 's', 'e'] (.bool false) rest
  | .int n, depth, fuel + 1, rest, h, _, hrest => by
    obtain ⟨c, cs, hc⟩ := List.exists_cons_of_ne_nil (renderInt_ne_nil n)
    have hnumeric : isNumeric c = true :=
      isNumeric_renderInt n c (by rw [hc]; exact List.mem_cons_self)
    have hn : IsWord n := by cases depth <;> exact h
    show readValue .full (fuel + 1) depth (renderInt n ++ rest) = _
    rw [← readNumber_renderInt hn hrest, hc]
    exact readValue_of_isNumeric hnumeric fuel depth (cs ++ rest)
  | .string s, depth, fuel + 1, rest, _, _, _ => by
    have htext : renderValue (.string s) ++ rest =
        '"' :: (s.toList.flatMap escapeChar ++ '"' :: rest) := by
      simp [renderValue, renderString]
    rw [htext, readValue, skipBlanks_cons rfl]
    simp only [readString_renderString]
    rfl
  | .array [], depth + 1, fuel + 1, rest, _, _, _ => rfl
  | .array (v :: items), depth + 1, fuel + 1, rest, h, hfuel, _ => by
    have hlength : (renderValue (.array (v :: items))).length =
      (renderItems (v :: items)).length + 1 := rfl
    have hread := readItems_renderItems v items depth fuel [] rest h (by omega)
    obtain ⟨c, cs, hc, hopening⟩ := renderItems_cons v items
    show readValue .full (fuel + 1) (depth + 1) ('[' :: (renderItems (v :: items) ++ rest)) = _
    rw [hc] at hread ⊢
    rw [List.cons_append, readValue_bracket hopening]
    exact hread
  | .object [], depth + 1, fuel + 1, rest, _, _, _ => rfl
  | .object ((name, v) :: members), depth + 1, fuel + 1, rest, h, hfuel, _ => by
    have hlength : (renderValue (.object ((name, v) :: members))).length =
      (renderMembers ((name, v) :: members)).length + 1 := rfl
    have hread := readMembers_renderMembers name v members depth fuel [] rest h.2 (by omega)
    obtain ⟨cs, hc⟩ := renderMembers_cons name v members
    show readValue .full (fuel + 1) (depth + 1)
      ('\x7b' :: (renderMembers ((name, v) :: members) ++ rest)) = _
    rw [hc] at hread ⊢
    rw [List.cons_append, readValue_brace]
    rw [List.cons_append] at hread
    -- the members are set again one by one, and come out in the order that they had
    rw [hread, List.reverse_nil, List.nil_append, h.1]

/-- Items are read behind those read before. -/
theorem readItems_renderItems : ∀ (v : Json) (items : List Json) (depth fuel : ℕ) (acc : List Json)
    (rest : List Char), Json.PlainItems depth (v :: items) →
      2 * (renderItems (v :: items)).length ≤ fuel →
      readItems .full fuel depth acc (renderItems (v :: items) ++ rest) =
        .ok (.array (acc.reverse ++ v :: items), rest)
  | v, items, _, 0, _, _, _, hfuel => by
    obtain ⟨c, cs, hc, -⟩ := renderItems_cons v items
    rw [hc, List.length_cons] at hfuel
    omega
  | v, [], depth, fuel + 1, acc, rest, h, hfuel => by
    have hlength : (renderItems [v]).length = (renderValue v).length + 1 := by simp [renderItems]
    have hread := readValue_renderValue v depth fuel (']' :: rest) h.1 (by omega)
      (endsNumber_bracket rest)
    rw [renderItems, List.append_assoc, List.singleton_append, readItems_last acc hread,
      List.reverse_cons]
  | v, w :: items, depth, fuel + 1, acc, rest, h, hfuel => by
    have hpos := length_renderValue_pos v
    have hlength : (renderItems (v :: w :: items)).length =
        (renderValue v).length + ((renderItems (w :: items)).length + 1) := by
      rw [renderItems_more, List.length_append, List.length_cons]
    have hread := readValue_renderValue v depth fuel (',' :: (renderItems (w :: items) ++ rest)) h.1
      (by omega) (endsNumber_comma _)
    have hitems := readItems_renderItems w items depth fuel (v :: acc) rest h.2 (by omega)
    rw [renderItems_more, List.append_assoc, List.cons_append, readItems_more acc hread, hitems,
      List.reverse_cons, List.append_assoc, List.singleton_append]

/-- Members are read behind those read before. -/
theorem readMembers_renderMembers : ∀ (name : String) (v : Json) (members : List (String × Json))
    (depth fuel : ℕ) (acc : List (String × Json)) (rest : List Char),
    Json.PlainMembers depth ((name, v) :: members) →
      2 * (renderMembers ((name, v) :: members)).length ≤ fuel →
      readMembers .full fuel depth acc (renderMembers ((name, v) :: members) ++ rest) =
        .ok (Json.ofMembers (acc.reverse ++ (name, v) :: members), rest)
  | name, v, members, _, 0, _, _, _, hfuel => by
    obtain ⟨cs, hc⟩ := renderMembers_cons name v members
    rw [hc, List.length_cons] at hfuel
    omega
  | name, v, [], depth, fuel + 1, acc, rest, h, hfuel => by
    have hlength : (renderMembers [(name, v)]).length =
        (renderString name).length + ((renderValue v).length + 1 + 1) := by
      simp [renderMembers_last]
    have hread := readValue_renderValue v depth fuel ('\x7d' :: rest) h.1 (by omega)
      (endsNumber_brace rest)
    rw [renderMembers_last, List.append_assoc, List.cons_append, List.append_assoc,
      List.singleton_append, readMembers_last name acc hread, List.reverse_cons]
  | name, v, (other, w) :: members, depth, fuel + 1, acc, rest, h, hfuel => by
    have hlength : (renderMembers ((name, v) :: (other, w) :: members)).length =
        (renderString name).length +
          ((renderValue v).length + ((renderMembers ((other, w) :: members)).length + 1) + 1) := by
      simp [renderMembers_more]
    have hread := readValue_renderValue v depth fuel
      (',' :: (renderMembers ((other, w) :: members) ++ rest)) h.1 (by omega) (endsNumber_comma _)
    have hmembers := readMembers_renderMembers other w members depth fuel ((name, v) :: acc) rest
      h.2 (by omega)
    rw [renderMembers_more, List.append_assoc, List.cons_append, List.append_assoc,
      List.cons_append, readMembers_more name acc hread, hmembers, List.reverse_cons,
      List.append_assoc, List.singleton_append]

end

/-- A plain value at the head of a text. -/
theorem value_renderValue {depth : ℕ} {v : Json} (h : v.Plain depth) {rest : List Char}
    (hrest : EndsNumber rest) : value .full depth (renderValue v ++ rest) = .ok (v, rest) :=
  readValue_renderValue v depth _ rest h (by rw [List.length_append]; omega) hrest

end JsonText

/-- **Round trip.** A plain value is read back from its text. -/
theorem Json.ofText_render {v : Json} (h : v.Plain JsonText.maxDepth) :
    Json.ofText v.render = .ok v := by
  have hread := JsonText.value_renderValue h JsonText.endsNumber_nil
  rw [List.append_nil] at hread
  unfold Json.ofText Json.render
  rw [String.toList_ofList, hread]
  rfl

end Detour
