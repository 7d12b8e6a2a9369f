import Detour.Rule.Condition
import Mathlib.Data.List.TakeDrop

/-!
# The text of a condition

A text falls into lines (`lines_iff`), and the first of them that has the form of a condition is the
condition that the text writes (`ConditionLine.isWritten_iff`).
-/

namespace Detour

/-! ## Lines -/

/-- Does the character end a line? -/
def isLineEnd (c : Char) : Bool := c = '\r' || c = '\n'

/-- The text falls into the given lines. A carriage return and a line feed right after it are one
line end. -/
inductive Lines : List Char → List (List Char) → Prop
  | last {line : List Char} (h : ∀ c ∈ line, isLineEnd c = false) : Lines line [line]
  | both {line rest : List Char} {lines : List (List Char)} (h : ∀ c ∈ line, isLineEnd c = false)
    (hrest : Lines rest lines) : Lines (line ++ '\r' :: '\n' :: rest) (line :: lines)
  | carriage {line rest : List Char} {lines : List (List Char)}
    (h : ∀ c ∈ line, isLineEnd c = false) (hfeed : rest.head? ≠ some '\n')
    (hrest : Lines rest lines) :
    Lines (line ++ '\r' :: rest) (line :: lines)
  | feed {line rest : List Char} {lines : List (List Char)} (h : ∀ c ∈ line, isLineEnd c = false)
    (hrest : Lines rest lines) : Lines (line ++ '\n' :: rest) (line :: lines)

theorem splitLines_carriage {rest : List Char} (h : rest.head? ≠ some '\n') :
    splitLines ('\r' :: rest) = [] :: splitLines rest := by
  cases rest with
  | nil => rfl
  | cons c rest =>
    have hc : c ≠ '\n' := fun hc => h (by rw [hc]; rfl)
    simp [splitLines, hc]

theorem splitLines_cons {c : Char} (h : isLineEnd c = false) {text line : List Char}
    {lines : List (List Char)} (htext : splitLines text = line :: lines) :
    splitLines (c :: text) = (c :: line) :: lines := by
  simp only [isLineEnd, Bool.or_eq_false_iff, decide_eq_false_iff_not] at h
  rw [splitLines, htext]
  · exact fun _ hc _ => h.1 hc
  · exact fun hc => h.1 hc
  · exact fun hc => h.2 hc

/-- Characters that end no line stand on the first one. -/
theorem splitLines_append {front text line : List Char} {lines : List (List Char)}
    (h : ∀ c ∈ front, isLineEnd c = false) (htext : splitLines text = line :: lines) :
    splitLines (front ++ text) = (front ++ line) :: lines := by
  induction front with
  | nil => exact htext
  | cons c front ih =>
    obtain ⟨hc, hfront⟩ := List.forall_mem_cons.mp h
    exact splitLines_cons hc (ih hfront)

theorem Lines.cons {c : Char} (hc : isLineEnd c = false) {text line : List Char}
    {lines : List (List Char)} (h : Lines text (line :: lines)) :
    Lines (c :: text) ((c :: line) :: lines) := by
  cases h with
  | last h => exact .last (List.forall_mem_cons.mpr ⟨hc, h⟩)
  | both h hrest => exact @Lines.both (c :: line) _ _ (List.forall_mem_cons.mpr ⟨hc, h⟩) hrest
  | carriage h hfeed hrest =>
    exact @Lines.carriage (c :: line) _ _ (List.forall_mem_cons.mpr ⟨hc, h⟩) hfeed hrest
  | feed h hrest => exact @Lines.feed (c :: line) _ _ (List.forall_mem_cons.mpr ⟨hc, h⟩) hrest

theorem lines_splitLines (text : List Char) : Lines text (splitLines text) := by
  fun_induction splitLines text with
  | case1 => exact .last (List.forall_mem_nil _)
  | case2 rest ih => exact @Lines.both [] _ _ (List.forall_mem_nil _) ih
  | case3 rest hfeed ih =>
    refine @Lines.carriage [] _ _ (List.forall_mem_nil _) (fun h => ?_) ih
    cases rest with
    | nil => cases h
    | cons c rest => cases h; exact hfeed rest rfl
  | case4 rest ih => exact @Lines.feed [] _ _ (List.forall_mem_nil _) ih
  | case5 c rest _ hreturn hfeed line lines hrest ih =>
    have hc : isLineEnd c = false := by
      simp only [isLineEnd, Bool.or_eq_false_iff, decide_eq_false_iff_not]
      exact ⟨hreturn, hfeed⟩
    rw [hrest] at ih
    exact ih.cons hc
  | case6 c rest _ _ _ hrest ih =>
    -- there is always a line
    rw [hrest] at ih
    cases ih

/-- A text falls into its lines in one way. -/
theorem lines_iff {text : List Char} {lines : List (List Char)} :
    Lines text lines ↔ splitLines text = lines := by
  refine ⟨fun h => ?_, fun h => h ▸ lines_splitLines text⟩
  induction h with
  | last h =>
    have hline := splitLines_append h (show splitLines [] = [[]] from rfl)
    rwa [List.append_nil] at hline
  | @both line rest lines h hrest ih =>
    have hbreak : splitLines ('\r' :: '\n' :: rest) = [] :: splitLines rest := rfl
    rw [splitLines_append h hbreak, ih, List.append_nil]
  | carriage h hfeed hrest ih =>
    rw [splitLines_append h (splitLines_carriage hfeed), ih, List.append_nil]
  | @feed line rest lines h hrest ih =>
    have hbreak : splitLines ('\n' :: rest) = [] :: splitLines rest := rfl
    rw [splitLines_append h hbreak, ih, List.append_nil]

/-! ## The line of a condition -/

namespace ConditionLine

/-- The line writes `%{REQUEST_`, the subject, a closing brace, a blank and the pattern. -/
structure Written (l : ConditionLine) (line : List Char) : Prop where
  text : line = opening ++ (l.subject ++ '\x7d' :: ' ' :: l.pattern)
  subject_ne_nil : l.subject ≠ []
  isNameChar : ∀ c ∈ l.subject, isNameChar c = true
  pattern_ne_nil : l.pattern ≠ []

/-- The pattern of a line is read with its anchors at the ends of lines. -/
theorem compile_eq (l : ConditionLine) :
    l.compile = Pattern.compile ("(?m)" ++ String.ofList l.pattern) := by
  have hsource :
      String.ofList ("(?m)".toList ++ l.pattern) = "(?m)" ++ String.ofList l.pattern := by
    rw [String.ofList_append, String.ofList_toList]
  rw [compile, hsource]

theorem name_eq (l : ConditionLine) : l.name = String.ofList (l.subject.map Char.toLower) := by
  rw [name, asciiLower, String.toList_ofList]

theorem isNameChar_brace : ConditionLine.isNameChar '\x7d' = false := by decide

/-- A subject ends at its closing brace. -/
theorem span_isNameChar {subject : List Char}
    (h : ∀ c ∈ subject, ConditionLine.isNameChar c = true) (rest : List Char) :
    (subject ++ '\x7d' :: rest).span ConditionLine.isNameChar = (subject, '\x7d' :: rest) := by
  rw [List.span_eq_takeWhile_dropWhile, List.takeWhile_append_of_pos h,
    List.dropWhile_append_of_pos h]
  simp [isNameChar_brace]

theorem ofLine?_of_written {line : List Char} {l : ConditionLine} (h : l.Written line) :
    ofLine? line = some l := by
  obtain ⟨subject, pattern⟩ := l
  obtain ⟨a, name, rfl⟩ := List.exists_cons_of_ne_nil h.subject_ne_nil
  obtain ⟨c, cs, rfl⟩ := List.exists_cons_of_ne_nil h.pattern_ne_nil
  have hparts := span_isNameChar h.isNameChar (' ' :: c :: cs)
  unfold ofLine?
  rw [h.text, if_pos (List.isPrefixOf_iff_prefix.mpr (List.prefix_append ..)), List.drop_left]
  dsimp only
  rw [hparts]
  rfl

theorem written_of_ofLine? {line : List Char} {l : ConditionLine} (h : ofLine? line = some l) :
    l.Written line := by
  unfold ofLine? at h
  split at h
  case isFalse => cases h
  case isTrue hopening =>
    obtain ⟨rest, hrest⟩ := List.isPrefixOf_iff_prefix.mp hopening
    rw [← hrest, List.drop_left, List.span_eq_takeWhile_dropWhile] at h
    have hwhole := List.takeWhile_append_dropWhile (p := ConditionLine.isNameChar) (l := rest)
    have hchars := List.all_takeWhile (p := ConditionLine.isNameChar) (l := rest)
    split at h
    case h_2 => cases h
    case h_1 a name c pattern hparts =>
      obtain ⟨hsubject, hafter⟩ := Prod.mk.inj hparts
      rw [hsubject, hafter] at hwhole
      rw [hsubject] at hchars
      rw [← Option.some.inj h]
      exact ⟨by rw [← hrest, ← hwhole], List.cons_ne_nil _ _, List.all_eq_true.mp hchars,
        List.cons_ne_nil _ _⟩

/-- A line is read as what it writes. -/
theorem ofLine?_eq_some_iff {line : List Char} {l : ConditionLine} :
    ofLine? line = some l ↔ l.Written line :=
  ⟨written_of_ofLine?, ofLine?_of_written⟩

/-- The text has a line of the form of a condition, and this is the first one. -/
def IsFirstIn (l : ConditionLine) (text : List Char) : Prop :=
  ∃ before line later, Lines text (before ++ line :: later) ∧ l.Written line ∧
    ∀ other ∈ before, ∀ l' : ConditionLine, ¬ l'.Written other

theorem isFirstIn_iff {text : List Char} {l : ConditionLine} :
    l.IsFirstIn text ↔ ofText? text = some l := by
  have hnone : ∀ other, ofLine? other = none ↔ ∀ l' : ConditionLine, ¬ l'.Written other := by
    intro other
    simp only [Option.eq_none_iff_forall_ne_some, Ne, ofLine?_eq_some_iff]
  unfold IsFirstIn ofText?
  simp only [List.findSome?_eq_some_iff, lines_iff, ofLine?_eq_some_iff, hnone]

end ConditionLine

end Detour
