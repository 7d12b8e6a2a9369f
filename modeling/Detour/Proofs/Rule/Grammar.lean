import Detour.Proofs.Rule.ConditionText
import Mathlib.Tactic.IntervalCases

/-!
# The form of conditions as a program

A program for the form of a condition finds what line after line would give: the first line of the
form (`Condition.finds_of_lines`). The search is followed character by character. Behind the start
of a line there is one thread, or two that wait for different characters, and none survives the end
of its line.
-/

namespace Detour.Condition

/-! ## The program -/

/-- Takes one character. -/
def takes (c : Char) : Instr := .chars (.single c.toNat)

def nameChars : CodeSet := ⟨[⟨0x30, 0x39⟩, ⟨0x41, 0x5A⟩, ⟨0x5F, 0x5F⟩, ⟨0x61, 0x7A⟩]⟩

/-- All characters that end no line. -/
def lineChars : CodeSet := ⟨[⟨0, 9⟩, ⟨11, 12⟩, ⟨14, 0xD7FF⟩, ⟨0xE000, 0x10FFFF⟩]⟩

def grammarProgram : Array Instr :=
  #[.opens 0, .look (.lineStart true),
    takes '%', takes '\x7b', takes 'R', takes 'E', takes 'Q', takes 'U', takes 'E', takes 'S',
    takes 'T', takes '_',
    .opens 1, .chars nameChars, .fork 13 15, .closes 1,
    takes '\x7d', takes ' ',
    .opens 2, .chars lineChars, .fork 19 21, .closes 2,
    .look (.lineEnd true), .closes 0, .accept]

/-! ## Places -/

theorem isAlphanum_iff (c : Char) : c.isAlphanum = true ↔
    (65 ≤ c.toNat ∧ c.toNat ≤ 90 ∨ 97 ≤ c.toNat ∧ c.toNat ≤ 122) ∨
      48 ≤ c.toNat ∧ c.toNat ≤ 57 := by
  have hupper : c.isUpper = true ↔ 65 ≤ c.toNat ∧ c.toNat ≤ 90 := decide_eq_true_iff
  have hlower : c.isLower = true ↔ 97 ≤ c.toNat ∧ c.toNat ≤ 122 := by
    exact Bool.and_eq_true_iff.trans (and_congr decide_eq_true_iff decide_eq_true_iff)
  have hdigit : c.isDigit = true ↔ 48 ≤ c.toNat ∧ c.toNat ≤ 57 := Char.isDigit_iff_toNat
  rw [← hupper, ← hlower, ← hdigit]
  exact Bool.or_eq_true_iff.trans (or_congr_left Bool.or_eq_true_iff)

theorem containsChar_nameChars (c : Char) :
    nameChars.containsChar c = ConditionLine.isNameChar c := by
  rw [Bool.eq_iff_iff, ConditionLine.isNameChar, Bool.or_eq_true, isAlphanum_iff]
  simp [CodeSet.containsChar, CodeSet.contains, CodeSet.memRanges, nameChars, ← Char.toNat_inj]
  omega

theorem containsChar_lineChars (c : Char) : lineChars.containsChar c = !isLineEnd c := by
  have hvalid : c.toNat < 0xD800 ∨ 0xDFFF < c.toNat ∧ c.toNat < 0x110000 := c.valid
  rw [Bool.eq_iff_iff]
  simp [CodeSet.containsChar, CodeSet.contains, CodeSet.memRanges, lineChars, isLineEnd,
    ← Char.toNat_inj]
  omega

theorem containsChar_single (c d : Char) :
    (CodeSet.single d.toNat).containsChar c = decide (c = d) := by
  rw [Bool.eq_iff_iff]
  simp [CodeSet.containsChar, CodeSet.contains, CodeSet.memRanges, CodeSet.single,
    ← Char.toNat_inj]
  omega

/-- The instruction does not take the character. -/
def Refuses (c : Char) : Instr → Bool
  | .chars s => !s.containsChar c
  | _ => true

/-- No thread takes the end of a line. -/
theorem advance_of_isLineEnd {c : Char} (hc : isLineEnd c = true) (t : Thread) :
    t.advance grammarProgram c = none := by
  have hends : c = '\r' ∨ c = '\n' := by simpa [isLineEnd] using hc
  have hall : grammarProgram.toList.all (Refuses c) = true := by
    rcases hends with rfl | rfl
    · decide
    · decide
  unfold Thread.advance
  split
  · rename_i s hs
    have hmem := Array.mem_toList_iff.mpr (Array.mem_of_getElem? hs)
    have hnot : (!s.containsChar c) = true := List.all_eq_true.mp hall _ hmem
    rw [if_neg (by simpa using hnot)]
  · rfl

theorem advance_takes {a : ℕ} {d : Char} (ha : grammarProgram[a]? = some (takes d)) (c : Char)
    (m : List Mark) :
    Thread.advance grammarProgram c ⟨a, m⟩ = if c = d then some ⟨a + 1, m⟩ else none := by
  simp [Thread.advance, ha, takes, containsChar_single]

theorem advance_name (c : Char) (m : List Mark) : Thread.advance grammarProgram c ⟨13, m⟩ =
    if ConditionLine.isNameChar c then some ⟨14, m⟩ else none := by
  rw [← containsChar_nameChars]
  rfl

theorem advance_pattern (c : Char) (m : List Mark) : Thread.advance grammarProgram c ⟨19, m⟩ =
    if isLineEnd c then none else some ⟨20, m⟩ := by
  have hset : Thread.advance grammarProgram c ⟨19, m⟩ =
    if lineChars.containsChar c then some ⟨20, m⟩ else none := rfl
  rw [hset, containsChar_lineChars]
  cases isLineEnd c <;> rfl

section Arrivals

variable {place : Place} (h : Look.holds place.before place.after (.lineStart true) = false)
  (m : List Mark)

theorem arrive_lineStart (h : Look.holds place.before place.after (.lineStart true) = true) :
    arrive grammarProgram place [] none = ([⟨2, [⟨0, true, place.position⟩]⟩], none) := by
  simp [arrive, waitingAt, settle, grammarProgram, h, cutAtAccept, takes]

include h

theorem arrive_nil : arrive grammarProgram place [] none = ([], none) := by
  simp [arrive, waitingAt, settle, grammarProgram, h, cutAtAccept]

theorem arrive_takes {a : ℕ} (ha : 3 ≤ a ∧ a ≤ 11 ∨ a = 17) :
    arrive grammarProgram place [⟨a, m⟩] none = ([⟨a, m⟩], none) := by
  obtain ⟨hlow, hhigh⟩ | rfl := ha
  · interval_cases a <;> simp [arrive, waitingAt, settle, grammarProgram, h, cutAtAccept, takes]
  · simp [arrive, waitingAt, settle, grammarProgram, h, cutAtAccept, takes]

theorem arrive_name : arrive grammarProgram place [⟨12, m⟩] none =
    ([⟨13, ⟨1, true, place.position⟩ :: m⟩], none) := by
  simp [arrive, waitingAt, settle, grammarProgram, h, cutAtAccept]

theorem arrive_inName : arrive grammarProgram place [⟨14, m⟩] none =
    ([⟨13, m⟩, ⟨16, ⟨1, false, place.position⟩ :: m⟩], none) := by
  simp [arrive, waitingAt, settle, grammarProgram, h, cutAtAccept, takes]

theorem arrive_pattern : arrive grammarProgram place [⟨18, m⟩] none =
    ([⟨19, ⟨2, true, place.position⟩ :: m⟩], none) := by
  simp [arrive, waitingAt, settle, grammarProgram, h, cutAtAccept]

theorem arrive_inPattern : arrive grammarProgram place [⟨20, m⟩] none =
    ([⟨19, m⟩], if Look.holds place.before place.after (.lineEnd true) then
      some (⟨0, false, place.position⟩ :: ⟨2, false, place.position⟩ :: m) else none) := by
  by_cases hend : Look.holds place.before place.after (.lineEnd true) = true
  · simp [arrive, waitingAt, settle, grammarProgram, h, cutAtAccept, hend]
  · simp [arrive, waitingAt, settle, grammarProgram, h, cutAtAccept, hend]

end Arrivals

/-! ## Runs over a line -/

/-- The characters end no line. -/
def InLine (line : List Char) : Prop := ∀ c ∈ line, isLineEnd c = false

/-- The text is empty or begins with the end of a line. -/
def AtLineEnd (rest : List Char) : Prop := ∀ c, rest.head? = some c → isLineEnd c = true

/-- The search behind a line that was left without a match: no thread gets over its end. -/
def afterLine (p : ℕ) : List Char → Option (List Mark)
  | [] => none
  | c :: rest => runThreads grammarProgram (p + 1) (some c) [] none rest

theorem not_lineStart {b : Char} (hb : isLineEnd b = false) (a : Option Char) :
    Look.holds (some b) a (.lineStart true) = false := by
  simp [isLineEnd] at hb
  simp [Look.holds, hb]

theorem lineEnd_of_atLineEnd {b : Char} (hb : isLineEnd b = false) {rest : List Char}
    (hrest : AtLineEnd rest) : Look.holds (some b) rest.head? (.lineEnd true) = true := by
  simp [isLineEnd] at hb
  cases rest with
  | nil => rfl
  | cons c rest =>
    have hc : c = '\r' ∨ c = '\n' := by simpa [isLineEnd] using hrest c rfl
    rcases hc with rfl | rfl
    · rfl
    · simp [Look.holds, hb]

theorem not_lineEnd {b c : Char} (hc : isLineEnd c = false) :
    Look.holds (some b) (some c) (.lineEnd true) = false := by
  simp [isLineEnd] at hc
  simp [Look.holds, hc]

variable {p : ℕ} {b c : Char} {before : Option Char} {threads live : List Thread}
  {line rest : List Char} {m : List Mark}

/-- A turn of the search as long as nothing is found. -/
theorem runThreads_cons
    (h : arrive grammarProgram ⟨p, before, some c⟩ threads none = (live, none)) :
    runThreads grammarProgram p before threads none (c :: rest) =
      runThreads grammarProgram (p + 1) (some c)
        (live.filterMap (Thread.advance grammarProgram c)) none rest := by
  rw [runThreads, h]
  simp

/-- At the end of its line a thread that has found nothing is gone. -/
theorem runThreads_of_atLineEnd (hrest : AtLineEnd rest)
    (h : arrive grammarProgram ⟨p, before, rest.head?⟩ threads none = (live, none)) :
    runThreads grammarProgram p before threads none rest = afterLine p rest := by
  cases rest with
  | nil => rw [runThreads]; exact congrArg Prod.snd h
  | cons c rest =>
    rw [runThreads_cons h, afterLine]
    have hnone : live.filterMap (Thread.advance grammarProgram c) = [] :=
      List.filterMap_eq_nil_iff.mpr fun t _ => advance_of_isLineEnd (hrest c rfl) t
    rw [hnone]

/-- Nothing is found in the rest of a line that no thread is left for. -/
theorem runThreads_idle (hb : isLineEnd b = false) (hline : InLine line) (hrest : AtLineEnd rest) :
    runThreads grammarProgram p (some b) [] none (line ++ rest) =
      afterLine (p + line.length) rest := by
  induction line generalizing p b with
  | nil => exact runThreads_of_atLineEnd hrest (arrive_nil (not_lineStart hb _))
  | cons c line ih =>
    obtain ⟨hc, hline⟩ := List.forall_mem_cons.mp hline
    rw [List.cons_append, runThreads_cons (arrive_nil (not_lineStart hb _)), List.filterMap_nil,
      ih hc hline, List.length_cons, Nat.add_assoc, Nat.add_comm 1]

/-- A match that no thread is left to improve is the one that is found. -/
theorem runThreads_found (p : ℕ) (before : Option Char) (m : List Mark) (rest : List Char) :
    runThreads grammarProgram p before [] (some m) rest = some m := by
  have hsame : ∀ place, arrive grammarProgram place [] (some m) = ([], some m) := fun _ => rfl
  cases rest with
  | nil => rw [runThreads, hsame]
  | cons c rest =>
    rw [runThreads, hsame]
    rfl

/-- Behind the first character of a pattern the rest of the line belongs to it. -/
theorem runThreads_inPattern (hb : isLineEnd b = false) (hline : InLine line)
    (hrest : AtLineEnd rest) :
    runThreads grammarProgram p (some b) [⟨20, m⟩] none (line ++ rest) =
      some (⟨0, false, p + line.length⟩ :: ⟨2, false, p + line.length⟩ :: m) := by
  induction line generalizing p b with
  | nil =>
    have hfound := @arrive_inPattern ⟨p, some b, rest.head?⟩ (not_lineStart hb _) m
    rw [if_pos (lineEnd_of_atLineEnd hb hrest)] at hfound
    cases rest with
    | nil => rw [List.append_nil, runThreads]; exact congrArg Prod.snd hfound
    | cons c rest =>
      have hgone : ([⟨19, m⟩] : List Thread).filterMap (Thread.advance grammarProgram c) = [] :=
        List.filterMap_eq_nil_iff.mpr fun t _ => advance_of_isLineEnd (hrest c rfl) t
      replace hfound : arrive grammarProgram ⟨p, some b, some c⟩ [⟨20, m⟩] none = _ := hfound
      rw [List.nil_append, runThreads, hfound]
      simp only [List.isEmpty_cons, Bool.false_and, Bool.false_eq_true, if_false, hgone]
      exact runThreads_found ..
  | cons c line ih =>
    obtain ⟨hc, hline⟩ := List.forall_mem_cons.mp hline
    have hfound := @arrive_inPattern ⟨p, some b, some c⟩ (not_lineStart hb _) m
    rw [if_neg (by simp [not_lineEnd hc])] at hfound
    have htaken : ([⟨19, m⟩] : List Thread).filterMap (Thread.advance grammarProgram c) =
        [⟨20, m⟩] := by
      simp [advance_pattern, hc]
    rw [List.cons_append, runThreads_cons hfound, htaken, ih hc hline, List.length_cons,
      Nat.add_assoc, Nat.add_comm 1]

/-- Before the pattern. -/
theorem runThreads_pattern (hb : isLineEnd b = false) (hline : InLine line) (hne : line ≠ [])
    (hrest : AtLineEnd rest) :
    runThreads grammarProgram p (some b) [⟨18, m⟩] none (line ++ rest) =
      some (⟨0, false, p + line.length⟩ :: ⟨2, false, p + line.length⟩ :: ⟨2, true, p⟩ :: m) := by
  obtain ⟨c, line, rfl⟩ := List.exists_cons_of_ne_nil hne
  obtain ⟨hc, hline⟩ := List.forall_mem_cons.mp hline
  rw [List.cons_append, runThreads_cons (arrive_pattern (not_lineStart hb _) m),
    List.filterMap_cons, advance_pattern, hc]
  show runThreads grammarProgram (p + 1) (some c) [⟨20, ⟨2, true, p⟩ :: m⟩] none _ = _
  rw [runThreads_inPattern hc hline hrest, List.length_cons, Nat.add_assoc, Nat.add_comm 1]

/-! Behind the brace that ends a name. -/

theorem runThreads_brace (hb : isLineEnd b = false) (hline : InLine line) (hne : line ≠ [])
    (hrest : AtLineEnd rest) :
    runThreads grammarProgram p (some b) [⟨17, m⟩] none (' ' :: (line ++ rest)) =
      some (⟨0, false, p + 1 + line.length⟩ :: ⟨2, false, p + 1 + line.length⟩ ::
        ⟨2, true, p + 1⟩ :: m) := by
  rw [runThreads_cons (arrive_takes (not_lineStart hb _) m (.inr rfl)), List.filterMap_cons,
    advance_takes rfl, if_pos rfl]
  exact runThreads_pattern rfl hline hne hrest

theorem runThreads_brace_lost (hb : isLineEnd b = false) (hline : InLine line)
    (hrest : AtLineEnd rest) (hlost : ∀ pattern, pattern ≠ [] → line ≠ ' ' :: pattern) :
    runThreads grammarProgram p (some b) [⟨17, m⟩] none (line ++ rest) =
      afterLine (p + line.length) rest := by
  have harrive := fun a => @arrive_takes ⟨p, some b, a⟩ (not_lineStart hb a) m _ (.inr rfl)
  cases line with
  | nil => exact runThreads_of_atLineEnd hrest (harrive _)
  | cons c line =>
    obtain ⟨hc, hline⟩ := List.forall_mem_cons.mp hline
    rw [List.cons_append, runThreads_cons (harrive _), List.filterMap_cons, advance_takes rfl]
    by_cases hblank : c = ' '
    · subst hblank
      obtain rfl : line = [] := by
        by_contra hne
        exact hlost line hne rfl
      rw [if_pos rfl]
      exact runThreads_of_atLineEnd hrest (arrive_pattern (not_lineStart hc _) m)
    · rw [if_neg hblank, List.length_cons, ← Nat.add_assoc, Nat.add_right_comm]
      exact runThreads_idle hc hline hrest

/-! Behind the first character of a name. -/

variable {name : List Char}

theorem isLineEnd_of_isNameChar (hc : ConditionLine.isNameChar c = true) : isLineEnd c = false := by
  rw [Bool.eq_false_iff]
  intro h
  have hends : c = '\r' ∨ c = '\n' := by simpa [isLineEnd] using h
  rcases hends with rfl | rfl <;> exact absurd hc (by decide)

theorem runThreads_inName_cons (hb : isLineEnd b = false) (text : List Char) :
    runThreads grammarProgram p (some b) [⟨14, m⟩] none (c :: text) =
      runThreads grammarProgram (p + 1) (some c)
        (if ConditionLine.isNameChar c then [⟨14, m⟩]
          else if c = '\x7d' then [⟨17, ⟨1, false, p⟩ :: m⟩] else []) none text := by
  rw [runThreads_cons (arrive_inName (not_lineStart hb _) m), List.filterMap_cons, advance_name,
    List.filterMap_cons, advance_takes rfl, List.filterMap_nil]
  by_cases hname : ConditionLine.isNameChar c = true
  · have hbrace : c ≠ '\x7d' := fun h => absurd hname (by rw [h]; decide)
    simp [hname, hbrace]
  · by_cases hbrace : c = '\x7d' <;> simp [hname, hbrace, ConditionLine.isNameChar_brace]

theorem runThreads_inName (hb : isLineEnd b = false)
    (hname : ∀ c ∈ name, ConditionLine.isNameChar c = true) (hline : InLine line) (hne : line ≠ [])
    (hrest : AtLineEnd rest) :
    runThreads grammarProgram p (some b) [⟨14, m⟩] none
        (name ++ '\x7d' :: ' ' :: (line ++ rest)) =
      some (⟨0, false, p + name.length + 2 + line.length⟩ ::
        ⟨2, false, p + name.length + 2 + line.length⟩ :: ⟨2, true, p + name.length + 2⟩ ::
        ⟨1, false, p + name.length⟩ :: m) := by
  induction name generalizing p b with
  | nil =>
    rw [List.nil_append, runThreads_inName_cons hb]
    exact runThreads_brace rfl hline hne hrest
  | cons c name ih =>
    obtain ⟨hc, hname⟩ := List.forall_mem_cons.mp hname
    rw [List.cons_append, runThreads_inName_cons hb, if_pos hc,
      ih (isLineEnd_of_isNameChar hc) hname, List.length_cons, Nat.add_right_comm p 1,
      ← Nat.add_assoc p]

theorem runThreads_inName_lost (hb : isLineEnd b = false) (hline : InLine line)
    (hrest : AtLineEnd rest) (hlost : ∀ name pattern,
      (∀ c ∈ name, ConditionLine.isNameChar c = true) → pattern ≠ [] →
        line ≠ name ++ '\x7d' :: ' ' :: pattern) :
    runThreads grammarProgram p (some b) [⟨14, m⟩] none (line ++ rest) =
      afterLine (p + line.length) rest := by
  induction line generalizing p b with
  | nil => exact runThreads_of_atLineEnd hrest (arrive_inName (not_lineStart hb _) m)
  | cons c line ih =>
    obtain ⟨hc, hline'⟩ := List.forall_mem_cons.mp hline
    rw [List.cons_append, runThreads_inName_cons hb, List.length_cons, ← Nat.add_assoc,
      Nat.add_right_comm]
    by_cases hname : ConditionLine.isNameChar c = true
    · rw [if_pos hname]
      refine ih hc hline' fun name pattern hall hpattern heq => ?_
      refine hlost (c :: name) pattern (List.forall_mem_cons.mpr ⟨hname, hall⟩) hpattern ?_
      rw [heq]
      rfl
    · rw [if_neg hname]
      by_cases hbrace : c = '\x7d'
      · subst hbrace
        rw [if_pos rfl]
        refine runThreads_brace_lost hc hline' hrest fun pattern hpattern heq => ?_
        exact hlost [] pattern (List.forall_mem_nil _) hpattern (by rw [heq]; rfl)
      · rw [if_neg hbrace]
        exact runThreads_idle hc hline' hrest

/-! Before a name. -/

theorem runThreads_name_cons (hb : isLineEnd b = false) (text : List Char) :
    runThreads grammarProgram p (some b) [⟨12, m⟩] none (c :: text) =
      runThreads grammarProgram (p + 1) (some c)
        (if ConditionLine.isNameChar c then [⟨14, ⟨1, true, p⟩ :: m⟩] else []) none text := by
  rw [runThreads_cons (arrive_name (not_lineStart hb _) m), List.filterMap_cons, advance_name]
  by_cases hname : ConditionLine.isNameChar c = true <;> simp [hname]

theorem runThreads_name (hb : isLineEnd b = false) (hne : name ≠ [])
    (hname : ∀ c ∈ name, ConditionLine.isNameChar c = true) (hline : InLine line)
    (hne' : line ≠ []) (hrest : AtLineEnd rest) :
    runThreads grammarProgram p (some b) [⟨12, m⟩] none
        (name ++ '\x7d' :: ' ' :: (line ++ rest)) =
      some (⟨0, false, p + name.length + 2 + line.length⟩ ::
        ⟨2, false, p + name.length + 2 + line.length⟩ :: ⟨2, true, p + name.length + 2⟩ ::
        ⟨1, false, p + name.length⟩ :: ⟨1, true, p⟩ :: m) := by
  obtain ⟨c, name, rfl⟩ := List.exists_cons_of_ne_nil hne
  obtain ⟨hc, hname⟩ := List.forall_mem_cons.mp hname
  rw [List.cons_append, runThreads_name_cons hb, if_pos hc,
    runThreads_inName (isLineEnd_of_isNameChar hc) hname hline hne' hrest, List.length_cons,
    Nat.add_right_comm p 1, ← Nat.add_assoc p]

theorem runThreads_name_lost (hb : isLineEnd b = false) (hline : InLine line)
    (hrest : AtLineEnd rest) (hlost : ∀ name pattern, name ≠ [] →
      (∀ c ∈ name, ConditionLine.isNameChar c = true) → pattern ≠ [] →
        line ≠ name ++ '\x7d' :: ' ' :: pattern) :
    runThreads grammarProgram p (some b) [⟨12, m⟩] none (line ++ rest) =
      afterLine (p + line.length) rest := by
  cases line with
  | nil => exact runThreads_of_atLineEnd hrest (arrive_name (not_lineStart hb _) m)
  | cons c line =>
    obtain ⟨hc, hline⟩ := List.forall_mem_cons.mp hline
    rw [List.cons_append, runThreads_name_cons hb, List.length_cons, ← Nat.add_assoc,
      Nat.add_right_comm]
    by_cases hname : ConditionLine.isNameChar c = true
    · rw [if_pos hname]
      refine runThreads_inName_lost hc hline hrest fun name pattern hall hpattern heq => ?_
      refine hlost (c :: name) pattern (List.cons_ne_nil _ _)
        (List.forall_mem_cons.mpr ⟨hname, hall⟩) hpattern ?_
      rw [heq]
      rfl
    · rw [if_neg hname]
      exact runThreads_idle hc hline hrest

/-! In the opening. -/

/-- The program takes the characters of the word one after the other, from the address `a` on. -/
def Spells : List Char → ℕ → Prop
  | [], _ => True
  | c :: word, a => grammarProgram[a]? = some (takes c) ∧ Spells word (a + 1)

variable {word : List Char} {a : ℕ}

theorem runThreads_word (hb : isLineEnd b = false) (hword : InLine word) (hspells : Spells word a)
    (hlow : 3 ≤ a) (hhigh : a + word.length ≤ 12) (text : List Char) :
    ∃ b', isLineEnd b' = false ∧
      runThreads grammarProgram p (some b) [⟨a, m⟩] none (word ++ text) =
        runThreads grammarProgram (p + word.length) (some b') [⟨a + word.length, m⟩] none text := by
  induction word generalizing p b a with
  | nil => exact ⟨b, hb, rfl⟩
  | cons c word ih =>
    obtain ⟨hc, hword⟩ := List.forall_mem_cons.mp hword
    rw [List.length_cons] at hhigh
    obtain ⟨b', hb', hrun⟩ := ih (p := p + 1) hc hword hspells.2 (by omega) (by omega)
    refine ⟨b', hb', ?_⟩
    rw [List.cons_append,
      runThreads_cons (arrive_takes (not_lineStart hb _) m (.inl ⟨hlow, by omega⟩)),
      List.filterMap_cons, advance_takes hspells.1, if_pos rfl, List.length_cons,
      ← Nat.add_assoc p, ← Nat.add_assoc a, Nat.add_right_comm p, Nat.add_right_comm a]
    exact hrun

theorem runThreads_word_lost (hb : isLineEnd b = false) (hspells : Spells word a)
    (hlow : 3 ≤ a) (hhigh : a + word.length ≤ 12) (hline : InLine line) (hrest : AtLineEnd rest)
    (hlost : ¬ word <+: line) :
    runThreads grammarProgram p (some b) [⟨a, m⟩] none (line ++ rest) =
      afterLine (p + line.length) rest := by
  induction word generalizing p b a line with
  | nil => exact absurd (List.nil_prefix) hlost
  | cons c word ih =>
    rw [List.length_cons] at hhigh
    have harrive := fun after => @arrive_takes ⟨p, some b, after⟩
      (not_lineStart hb after) m a (.inl ⟨hlow, by omega⟩)
    cases line with
    | nil => exact runThreads_of_atLineEnd hrest (harrive _)
    | cons d line =>
      obtain ⟨hd, hline⟩ := List.forall_mem_cons.mp hline
      rw [List.cons_append, runThreads_cons (harrive _), List.filterMap_cons,
        advance_takes hspells.1, List.length_cons, ← Nat.add_assoc, Nat.add_right_comm]
      by_cases hcd : d = c
      · subst hcd
        rw [if_pos rfl]
        exact ih hd hspells.2 (by omega) (by omega) hline fun h =>
          hlost (List.cons_prefix_cons.mpr ⟨rfl, h⟩)
      · rw [if_neg hcd]
        exact runThreads_idle hd hline hrest

/-! ## Whole lines -/

/-- The marks of a condition whose line starts at the position. -/
def marksOf (p : ℕ) (l : ConditionLine) : List Mark :=
  let name := p + ConditionLine.opening.length
  let pattern := name + l.subject.length + 2
  let stop := pattern + l.pattern.length
  [⟨0, false, stop⟩, ⟨2, false, stop⟩, ⟨2, true, pattern⟩, ⟨1, false, name + l.subject.length⟩,
    ⟨1, true, name⟩, ⟨0, true, p⟩]

/-- A line starts between the two characters. -/
def StartsLine (before after : Option Char) : Prop :=
  Look.holds before after (.lineStart true) = true

theorem runThreads_start_cons {text : List Char} (hstart : StartsLine before (some c)) :
    runThreads grammarProgram p before [] none (c :: text) =
      runThreads grammarProgram (p + 1) (some c) (if c = '%' then [⟨3, [⟨0, true, p⟩]⟩] else [])
        none text := by
  rw [runThreads_cons (arrive_lineStart hstart), List.filterMap_cons, advance_takes rfl]
  by_cases hc : c = '%' <;> simp [hc]

theorem spells_opening : Spells ConditionLine.opening 2 :=
  ⟨rfl, rfl, rfl, rfl, rfl, rfl, rfl, rfl, rfl, rfl, trivial⟩

theorem runThreads_opening (hstart : StartsLine before (some '%')) (text : List Char) :
    ∃ b, isLineEnd b = false ∧
      runThreads grammarProgram p before [] none (ConditionLine.opening ++ text) =
        runThreads grammarProgram (p + ConditionLine.opening.length) (some b)
          [⟨12, [⟨0, true, p⟩]⟩] none text := by
  have hall : (ConditionLine.opening.tail.all fun c => !isLineEnd c) = true := by decide +kernel
  have hword : InLine ConditionLine.opening.tail := by
    intro c hc
    simpa using List.all_eq_true.mp hall c hc
  obtain ⟨b, hb, hrun⟩ := runThreads_word (p := p + 1) (b := '%') (m := [⟨0, true, p⟩]) rfl hword
    spells_opening.2 (Nat.le_refl 3) (by decide) text
  refine ⟨b, hb, ?_⟩
  have hopening : ConditionLine.opening = '%' :: ConditionLine.opening.tail := rfl
  rw [hopening, List.cons_append, runThreads_start_cons hstart, if_pos rfl, hrun]
  rfl

theorem runThreads_written {l : ConditionLine} (hwritten : l.Written line) (hline : InLine line)
    (hrest : AtLineEnd rest) (hstart : StartsLine before (line ++ rest).head?) :
    runThreads grammarProgram p before [] none (line ++ rest) = some (marksOf p l) := by
  obtain ⟨htext, hsubject, hname, hpattern⟩ := hwritten
  subst htext
  have hpatternLine : InLine l.pattern := fun c hc => hline c (by simp [hc])
  obtain ⟨b, hb, hrun⟩ := runThreads_opening (p := p) hstart
    (l.subject ++ '\x7d' :: ' ' :: (l.pattern ++ rest))
  simp only [List.cons_append, List.append_assoc] at hrun ⊢
  rw [hrun, runThreads_name hb hsubject hname hpatternLine hpattern hrest]
  rfl

theorem runThreads_not_written (hlost : ∀ l : ConditionLine, ¬ l.Written line)
    (hline : InLine line) (hrest : AtLineEnd rest)
    (hstart : StartsLine before (line ++ rest).head?) :
    runThreads grammarProgram p before [] none (line ++ rest) =
      afterLine (p + line.length) rest := by
  by_cases hopening : ConditionLine.opening <+: line
  · obtain ⟨text, rfl⟩ := hopening
    have htext : InLine text := fun c hc => hline c (List.mem_append_right _ hc)
    obtain ⟨b, hb, hrun⟩ := runThreads_opening (p := p) hstart (text ++ rest)
    rw [List.append_assoc, hrun, List.length_append, ← Nat.add_assoc]
    refine runThreads_name_lost hb htext hrest fun name pattern hne hname hpattern heq => ?_
    exact hlost ⟨name, pattern⟩ ⟨by rw [heq], hne, hname, hpattern⟩
  cases line with
  | nil => exact runThreads_of_atLineEnd hrest (arrive_lineStart hstart)
  | cons c line =>
    obtain ⟨hc, hline'⟩ := List.forall_mem_cons.mp hline
    rw [List.cons_append, runThreads_start_cons hstart, List.length_cons, ← Nat.add_assoc,
      Nat.add_right_comm]
    by_cases hpercent : c = '%'
    · rw [if_pos hpercent]
      refine runThreads_word_lost hc spells_opening.2 (Nat.le_refl 3) (by decide) hline' hrest ?_
      intro hword
      exact hopening (List.cons_prefix_cons.mpr ⟨hpercent.symm, hword⟩)
    · rw [if_neg hpercent]
      exact runThreads_idle hc hline' hrest

/-! ## Whole texts -/

/-- What is found in the text are the marks of the first of its lines that has the form, and nothing
if none has. -/
def Finds (p : ℕ) (lines : List (List Char)) (text : List Char) (found : Option (List Mark)) :
    Prop :=
  match lines.findSome? ConditionLine.ofLine? with
  | none => found = none
  | some l => ∃ front line rest, text = front ++ (line ++ rest) ∧ l.Written line ∧
      found = some (marksOf (p + front.length) l)

theorem Finds.after {front text : List Char} {lines : List (List Char)} {found : Option (List Mark)}
    (h : Finds (p + front.length) lines text found) : Finds p lines (front ++ text) found := by
  unfold Finds at h ⊢
  split
  · rename_i hnone
    rw [hnone] at h
    exact h
  · rename_i l hfirst
    rw [hfirst] at h
    obtain ⟨front', line, rest, rfl, hwritten, hfound⟩ := h
    refine ⟨front ++ front', line, rest, (List.append_assoc ..).symm, hwritten, ?_⟩
    rw [hfound, List.length_append, Nat.add_assoc]

/-- A line is found, or the search goes on behind it. -/
theorem finds_line (hline : InLine line) (hrest : AtLineEnd rest)
    (hstart : StartsLine before (line ++ rest).head?) {lines : List (List Char)}
    (hnext : Finds (p + line.length) lines rest (afterLine (p + line.length) rest)) :
    Finds p (line :: lines) (line ++ rest)
      (runThreads grammarProgram p before [] none (line ++ rest)) := by
  cases hfirst : ConditionLine.ofLine? line with
  | some l =>
    have hwritten := ConditionLine.written_of_ofLine? hfirst
    unfold Finds
    rw [List.findSome?_cons, hfirst]
    exact ⟨[], line, rest, rfl, hwritten, runThreads_written hwritten hline hrest hstart⟩
  | none =>
    have hlost : ∀ l : ConditionLine, ¬ l.Written line := by
      intro l hl
      rw [ConditionLine.ofLine?_of_written hl] at hfirst
      cases hfirst
    have hlater := hnext.after
    unfold Finds at hlater ⊢
    rw [List.findSome?_cons, hfirst, runThreads_not_written hlost hline hrest hstart]
    exact hlater

/-- The search finds the first line that has the form. -/
theorem finds_of_lines {text : List Char} {lines : List (List Char)} (h : Lines text lines)
    (hstart : StartsLine before text.head?) :
    Finds p lines text (runThreads grammarProgram p before [] none text) := by
  induction h generalizing p before with
  | @last line hline =>
    have hnil : AtLineEnd [] := fun c hc => by cases hc
    have hnext : Finds (p + line.length) [] [] (afterLine (p + line.length) []) := rfl
    have hfinds := finds_line hline hnil (by rwa [List.append_nil]) hnext
    rwa [List.append_nil] at hfinds
  | @feed line rest lines hline hrest ih =>
    have hend : AtLineEnd ('\n' :: rest) := fun c hc => by cases hc; rfl
    exact finds_line hline hend hstart (@Finds.after _ ['\n'] _ _ _ (ih rfl))
  | @carriage line rest lines hline hfeed hrest ih =>
    have hend : AtLineEnd ('\r' :: rest) := fun c hc => by cases hc; rfl
    have hnext : StartsLine (some '\r') rest.head? := by
      simp [StartsLine, Look.holds, hfeed]
    exact finds_line hline hend hstart (@Finds.after _ ['\r'] _ _ _ (ih hnext))
  | @both line rest lines hline hrest ih =>
    have hend : AtLineEnd ('\r' :: '\n' :: rest) := fun c hc => by cases hc; rfl
    have hend' : AtLineEnd ('\n' :: rest) := fun c hc => by cases hc; rfl
    refine finds_line hline hend hstart (@Finds.after _ ['\r', '\n'] _ _ _ ?_)
    -- no line starts between the two characters
    have hbetween := runThreads_of_atLineEnd (p := p + line.length + 1) hend'
      (@arrive_nil ⟨_, some '\r', some '\n'⟩ rfl)
    have hskip : afterLine (p + line.length) ('\r' :: '\n' :: rest) =
        runThreads grammarProgram (p + line.length + 2) (some '\n') [] none rest := hbetween
    rw [hskip]
    exact ih rfl

end Detour.Condition
