import Detour.Http.Rerouting
import Mathlib.Data.List.Basic

/-!
# Parts of addresses and bytes of header values

An address is put together from scheme, authority, and path and query, where these go together
(`UriParts.toUri?`). Another path and query in their place is what rerouting does
(`Uri.withTarget?_eq`). A text may stand in a header if no byte of it is a control other than the
tab (`isFieldValue_iff`).
-/

namespace Detour

/-! ## Parts of an address -/

/-- The parts that an address may have. -/
structure UriParts where
  scheme : Option String
  authority : Option String
  target : Option PathAndQuery

/-- The parts of an address. A target of neither path nor query is none. -/
def Uri.parts : Uri → UriParts
  | origin t => ⟨none, none, if t.isBlank then none else some t⟩
  | absolute scheme name t => ⟨some scheme, some name, some t⟩
  | authority name => ⟨none, some name, none⟩

/-- The address of the given parts. A scheme needs an authority and a target, and an authority
takes a target only with a scheme. -/
def UriParts.toUri? : UriParts → Option Uri
  | ⟨some scheme, some name, some t⟩ => some (.absolute scheme name t)
  | ⟨some _, _, _⟩ => none
  | ⟨none, some name, none⟩ => some (.authority name)
  | ⟨none, some _, some _⟩ => none
  | ⟨none, none, t⟩ => some (.origin (t.getD ⟨"", none⟩))

namespace Uri

/-- An address is put together from its own parts. -/
theorem toUri?_parts (uri : Uri) : uri.parts.toUri? = some uri := by
  cases uri with
  | origin t =>
    by_cases h : t.isBlank = true
    · obtain ⟨path, query⟩ := t
      simp [PathAndQuery.isBlank] at h
      simp [parts, UriParts.toUri?, PathAndQuery.isBlank, h]
    · simp [parts, UriParts.toUri?, h]
  | absolute scheme name t => rfl
  | authority name => rfl

theorem withTarget?_eq (t : PathAndQuery) (uri : Uri) :
    uri.withTarget? t = { uri.parts with target := some t }.toUri? := by
  cases uri <;> rfl

/-- Another target leaves scheme and authority as they are. -/
theorem parts_of_withTarget? {t : PathAndQuery} {uri uri' : Uri}
    (h : uri.withTarget? t = some uri') : uri'.parts.scheme = uri.parts.scheme ∧
      uri'.parts.authority = uri.parts.authority ∧ uri'.url = t.text := by
  cases uri with
  | origin t' => cases h; exact ⟨rfl, rfl, rfl⟩
  | absolute scheme name t' => cases h; exact ⟨rfl, rfl, rfl⟩
  | authority name => cases h

end Uri

/-! ## Bytes of header values -/

/-- The byte is no control other than the tab. -/
def IsFieldByte (b : UInt8) : Prop := b = 9 ∨ 32 ≤ b ∧ b ≠ 127

theorem isFieldByte_iff {b : UInt8} :
    IsFieldByte b ↔ b.toNat = 9 ∨ 32 ≤ b.toNat ∧ b.toNat ≠ 127 := by
  unfold IsFieldByte
  rw [← UInt8.toNat_inj, UInt8.le_iff_toNat_le, Ne, ← UInt8.toNat_inj]
  rfl

/-- Beyond ASCII all bytes of a character have their highest bit set. -/
theorem le_of_mem_utf8EncodeChar {c : Char} (h : 127 < c.toNat) {b : UInt8}
    (hb : b ∈ String.utf8EncodeChar c) : 128 ≤ b.toNat := by
  have hcode : c.val.toNat = c.toNat := rfl
  have hbyte : ∀ n, 128 ≤ n → n < 256 → 128 ≤ (UInt8.ofNat n).toNat := by
    intro n hmin hmax
    rw [UInt8.toNat_ofNat', Nat.mod_eq_of_lt hmax]
    exact hmin
  unfold String.utf8EncodeChar at hb
  simp only [hcode, if_neg (Nat.not_le.mpr h)] at hb
  split_ifs at hb
  all_goals
    simp only [List.mem_cons, List.not_mem_nil, or_false] at hb
    rcases hb with rfl | rfl | rfl | rfl
  all_goals exact hbyte _ (by omega) (by omega)

theorem isFieldChar_iff {c : Char} :
    isFieldChar c = true ↔ ∀ b ∈ String.utf8EncodeChar c, IsFieldByte b := by
  have htab : c = '\t' ↔ c.toNat = 9 := Char.toNat_inj.symm
  have hchar : isFieldChar c = true ↔ c.toNat = 9 ∨ 32 ≤ c.toNat ∧ c.toNat ≠ 127 := by
    simp [isFieldChar, htab]
  rw [hchar]
  -- beyond ASCII both sides hold, below it the one byte is the code of the character
  by_cases h : 127 < c.toNat
  · refine ⟨fun _ b hb => ?_, fun _ => .inr (by omega)⟩
    have hmin := le_of_mem_utf8EncodeChar h hb
    exact isFieldByte_iff.mpr (.inr (by omega))
  · have hone : String.utf8EncodeChar c = [UInt8.ofNat c.toNat] :=
      if_pos (Nat.le_of_not_lt h)
    have hcode : (UInt8.ofNat c.toNat).toNat = c.toNat := by
      rw [UInt8.toNat_ofNat']
      omega
    rw [hone, List.forall_mem_singleton, isFieldByte_iff, hcode]

theorem isFieldValue_iff {s : String} :
    isFieldValue s = true ↔ ∀ b ∈ s.toUTF8.data, IsFieldByte b := by
  have hbytes : s.toUTF8.data = (s.toList.flatMap String.utf8EncodeChar).toArray := by
    rw [String.toUTF8_eq_toByteArray, ← String.utf8Encode_toList]
    exact List.data_toByteArray
  rw [isFieldValue, List.all_eq_true, hbytes]
  simp only [isFieldChar_iff, List.mem_toArray, List.mem_flatMap]
  constructor
  · rintro h b ⟨c, hc, hb⟩
    exact h c hc b hb
  · intro h c hc b hb
    exact h b ⟨c, hc, hb⟩

end Detour
