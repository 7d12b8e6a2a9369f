import Detour.Proofs.Http.Representation

/-!
# Texts as bytes

A text may be cut only where one of its characters begins, or at its end (`isBoundary_utf8_iff`).
A byte of ASCII is a character of its own (`exists_of_ascii`), so the places where signs of ASCII
stand are such boundaries.
-/

namespace Detour

/-- The bytes of a text. -/
def utf8 (cs : List Char) : List UInt8 := cs.flatMap String.utf8EncodeChar

@[simp] theorem utf8_nil : utf8 [] = [] := rfl

theorem utf8_cons (c : Char) (cs : List Char) :
    utf8 (c :: cs) = String.utf8EncodeChar c ++ utf8 cs := rfl

@[simp] theorem utf8_append (a b : List Char) : utf8 (a ++ b) = utf8 a ++ utf8 b :=
  List.flatMap_append

theorem utf8_toList (s : String) : utf8 s.toList = bytesOf s := (bytesOf_eq s).symm

/-- Different texts have different bytes. -/
theorem utf8_inj {a b : List Char} : utf8 a = utf8 b ↔ a = b := by
  refine ⟨fun h => ?_, fun h => h ▸ rfl⟩
  have hbytes : (String.ofList a).toByteArray = (String.ofList b).toByteArray := by
    rw [← String.utf8Encode_toList, ← String.utf8Encode_toList, String.toList_ofList,
      String.toList_ofList]
    exact congrArg List.toByteArray h
  exact String.ofList_inj.mp (String.toByteArray_inj.mp hbytes)

/-! ## Boundaries -/

/-- A character begins at the place, or the text ends there. -/
def isBoundary (text : List UInt8) (i : ℕ) : Bool :=
  i = text.length || text[i]?.any fun b => b.IsUTF8FirstByte

theorem isBoundary_iff {text : List UInt8} {i : ℕ} : isBoundary text i = true ↔
    i = text.length ∨ ∃ b, text[i]? = some b ∧ b.IsUTF8FirstByte := by
  simp [isBoundary, Option.any_eq_true]

theorem le_of_isBoundary {text : List UInt8} {i : ℕ} (h : isBoundary text i = true) :
    i ≤ text.length := by
  obtain rfl | ⟨b, hb, -⟩ := isBoundary_iff.mp h
  · exact Nat.le_refl _
  · exact Nat.le_of_lt (List.getElem?_eq_some_iff.mp hb).1

theorem length_utf8EncodeChar_pos (c : Char) : 0 < (String.utf8EncodeChar c).length :=
  List.length_pos_of_ne_nil String.utf8EncodeChar_ne_nil

theorem utf8_cons_ne_nil {c : Char} {cs : List Char} : utf8 (c :: cs) ≠ [] :=
  List.append_ne_nil_of_left_ne_nil String.utf8EncodeChar_ne_nil _

/-- Of the bytes of a character only the first is at a boundary. -/
theorem isBoundary_utf8_cons_of_lt {c : Char} (cs : List Char) {i : ℕ}
    (hi : i < (String.utf8EncodeChar c).length) :
    isBoundary (utf8 (c :: cs)) i = true ↔ i = 0 := by
  have hbyte : (utf8 (c :: cs))[i]? = some (String.utf8EncodeChar c)[i] := by
    rw [utf8_cons, List.getElem?_append_left hi, List.getElem?_eq_getElem hi]
  have hlength : i ≠ (utf8 (c :: cs)).length := by
    rw [utf8_cons, List.length_append]
    omega
  rw [isBoundary_iff, hbyte]
  simp only [hlength, false_or, Option.some.injEq, exists_eq_left',
    UInt8.isUTF8FirstByte_getElem_utf8EncodeChar]

theorem isBoundary_append (a b : List UInt8) (j : ℕ) :
    isBoundary (a ++ b) (a.length + j) = isBoundary b j := by
  unfold isBoundary
  rw [List.getElem?_append_right (Nat.le_add_right _ _), Nat.add_sub_cancel_left,
    List.length_append]
  congr 2
  exact propext (Nat.add_right_inj)

/-- The boundaries of a text are the places between two of its parts. -/
theorem isBoundary_utf8_iff {cs : List Char} {i : ℕ} :
    isBoundary (utf8 cs) i = true ↔ ∃ front back, cs = front ++ back ∧ i = (utf8 front).length := by
  constructor
  · intro h
    induction cs generalizing i with
    | nil => exact ⟨[], [], rfl, Nat.le_zero.mp (le_of_isBoundary h)⟩
    | cons c cs ih =>
      by_cases hi : i < (String.utf8EncodeChar c).length
      · exact ⟨[], c :: cs, rfl, (isBoundary_utf8_cons_of_lt cs hi).mp h⟩
      · obtain ⟨j, rfl⟩ := Nat.exists_eq_add_of_le (Nat.le_of_not_lt hi)
        rw [utf8_cons, isBoundary_append] at h
        obtain ⟨front, back, rfl, rfl⟩ := ih h
        exact ⟨c :: front, back, rfl, by rw [utf8_cons, List.length_append]⟩
  · rintro ⟨front, back, rfl, rfl⟩
    have hstart : isBoundary (utf8 back) 0 = true := by
      cases back with
      | nil => rfl
      | cons c back => exact (isBoundary_utf8_cons_of_lt back (length_utf8EncodeChar_pos c)).mpr rfl
    rw [utf8_append, ← Nat.add_zero (utf8 front).length, isBoundary_append]
    exact hstart

/-- The part of a text between two places, if it may be cut there. -/
def slice? (text : List UInt8) (start stop : ℕ) : Option (List UInt8) :=
  if start ≤ stop ∧ isBoundary text start ∧ isBoundary text stop then
    some ((text.take stop).drop start)
  else none

theorem slice?_eq_some_iff {text part : List UInt8} {start stop : ℕ} :
    slice? text start stop = some part ↔
      (start ≤ stop ∧ isBoundary text start ∧ isBoundary text stop) ∧
        (text.take stop).drop start = part := by
  rw [slice?, Option.ite_none_right_eq_some, Option.some.injEq]

theorem slice?_utf8 (a b c : List Char) :
    slice? (utf8 (a ++ b ++ c)) (utf8 a).length (utf8 (a ++ b)).length = some (utf8 b) := by
  have hstart : isBoundary (utf8 (a ++ b ++ c)) (utf8 a).length = true :=
    isBoundary_utf8_iff.mpr ⟨a, b ++ c, List.append_assoc .., rfl⟩
  have hstop : isBoundary (utf8 (a ++ b ++ c)) (utf8 (a ++ b)).length = true :=
    isBoundary_utf8_iff.mpr ⟨a ++ b, c, rfl, rfl⟩
  have hle : (utf8 a).length ≤ (utf8 (a ++ b)).length := by
    rw [utf8_append, List.length_append]
    exact Nat.le_add_right _ _
  refine slice?_eq_some_iff.mpr ⟨⟨hle, hstart, hstop⟩, ?_⟩
  rw [utf8_append (a ++ b), List.take_left, utf8_append, List.drop_left]

/-! ## Bytes of ASCII -/

theorem utf8EncodeChar_ascii {c : Char} (h : c.toNat < 128) :
    String.utf8EncodeChar c = [c.toUInt8] := utf8EncodeChar_of_le (Nat.le_of_lt_succ h)

theorem toNat_toUInt8 {c : Char} (h : c.toNat < 128) : c.toUInt8.toNat = c.toNat :=
  toNat_ofNat_of_le (Nat.le_of_lt_succ h)

/-- A byte of ASCII is a character of the text. -/
theorem exists_of_ascii {cs : List Char} {i : ℕ} {x : Char} (hx : x.toNat < 128)
    (h : (utf8 cs)[i]? = some x.toUInt8) :
    ∃ front back, cs = front ++ x :: back ∧ i = (utf8 front).length := by
  induction cs generalizing i with
  | nil => cases h
  | cons c cs ih =>
    have hbyte := toNat_toUInt8 hx
    rw [utf8_cons] at h
    by_cases hi : i < (String.utf8EncodeChar c).length
    · rw [List.getElem?_append_left hi] at h
      have hc : c.toNat < 128 := by
        by_contra hc
        have hmin := le_of_mem_utf8EncodeChar (by omega) (List.mem_of_getElem? h)
        omega
      rw [utf8EncodeChar_ascii hc] at hi h
      obtain rfl : i = 0 := by simpa using hi
      have hsame : c.toUInt8 = x.toUInt8 := Option.some.inj h
      rw [← hsame, toNat_toUInt8 hc] at hbyte
      obtain rfl := Char.toNat_inj.mp hbyte
      exact ⟨[], cs, rfl, rfl⟩
    · rw [List.getElem?_append_right (Nat.le_of_not_lt hi)] at h
      obtain ⟨front, back, rfl, hfront⟩ := ih h
      refine ⟨c :: front, back, rfl, ?_⟩
      rw [utf8_cons, List.length_append]
      omega

/-- A sign of ASCII occurs among the bytes of a text only where it occurs in the text. -/
theorem mem_utf8_iff {x : Char} (hx : x.toNat < 128) {cs : List Char} :
    x.toUInt8 ∈ utf8 cs ↔ x ∈ cs := by
  constructor
  · intro h
    obtain ⟨i, hi⟩ := List.mem_iff_getElem?.mp h
    obtain ⟨front, back, rfl, -⟩ := exists_of_ascii hx hi
    exact List.mem_append_right _ List.mem_cons_self
  · intro h
    refine List.mem_flatMap.mpr ⟨x, h, ?_⟩
    rw [utf8EncodeChar_ascii hx]
    exact List.mem_singleton_self _

/-- The first byte of a character. -/
def leadByte (c : Char) : UInt8 := (String.utf8EncodeChar c).head String.utf8EncodeChar_ne_nil

theorem getElem?_utf8_zero (cs : List Char) : (utf8 cs)[0]? = cs.head?.map leadByte := by
  cases cs with
  | nil => rfl
  | cons c cs =>
    rw [utf8_cons, List.getElem?_append_left (length_utf8EncodeChar_pos c),
      ← List.head?_eq_getElem?, List.head?_eq_some_head String.utf8EncodeChar_ne_nil]
    rfl

theorem leadByte_ascii {c : Char} (h : c.toNat < 128) : leadByte c = c.toUInt8 := by
  unfold leadByte
  simp only [utf8EncodeChar_ascii h, List.head_cons]

theorem le_leadByte {c : Char} (h : ¬ c.toNat < 128) : 128 ≤ (leadByte c).toNat :=
  le_of_mem_utf8EncodeChar (by omega) (List.head_mem _)

/-- Signs of ASCII are told by their first byte. -/
theorem leadByte_eq_iff {c x : Char} (hx : x.toNat < 128) : leadByte c = x.toUInt8 ↔ c = x := by
  constructor
  · intro h
    have hbyte := toNat_toUInt8 hx
    rw [← h] at hbyte
    by_cases hc : c.toNat < 128
    · rw [leadByte_ascii hc, toNat_toUInt8 hc] at hbyte
      exact Char.toNat_inj.mp hbyte
    · have hmin := le_leadByte hc
      omega
  · rintro rfl
    exact leadByte_ascii hx

end Detour
