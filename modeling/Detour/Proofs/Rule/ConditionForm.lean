import Detour.Proofs.Rule.Grammar
import Detour.Proofs.Rule.Silence
import Mathlib.Algebra.Order.BigOperators.Group.List
import Mathlib.Data.List.Permutation

/-!
# The form of conditions

The form of a condition can be written as one pattern for texts of several lines. It compiles
(`Condition.compile_grammar`), and a search with it finds what line after line would give
(`Condition.find?_grammar`). The first line of that form decides what a text is read as, and whether
there is a warning (`Condition.parse_reads_form`).
-/

namespace Detour

/-! ## Memory -/

namespace CodeSet

/-- Memory of the step where the rows are left to read. -/
def stepMemory (rows : List ByteRow) : ℕ := 32 + 8 * (ByteRow.followers rows).length

theorem foldl_stepMemory (n : ℕ) (steps : List (List ByteRow)) :
    steps.foldl (fun m rows => m + stepMemory rows) n = n + (steps.map stepMemory).sum := by
  induction steps generalizing n with
  | nil => rfl
  | cons rows steps ih => rw [List.foldl_cons, ih, List.map_cons, List.sum_cons, Nat.add_assoc]

/-- Steps that are shared count once. -/
theorem memory_forward_le {s : CodeSet} (h : s.isAscii = false) :
    s.memory .forward ≤ ((ByteRow.remainders 4 s.byteRows).map stepMemory).sum := by
  let steps := Std.HashSet.ofList (ByteRow.remainders 4 s.byteRows)
  have hmemory : s.memory .forward = (steps.toList.map stepMemory).sum := by
    have hfold := foldl_stepMemory 0 steps.toList
    rw [Nat.zero_add] at hfold
    rw [← hfold]
    simp only [memory, h]
    rfl
  have hnodup : steps.toList.Nodup := by
    have hdistinct := Std.HashSet.distinct_toList (m := steps)
    simp only [beq_eq_false_iff_ne] at hdistinct
    exact hdistinct
  have hsubset : steps.toList ⊆ ByteRow.remainders 4 s.byteRows := by
    intro rows hrows
    have hmem := Std.HashSet.mem_toList.mp hrows
    simpa [steps] using hmem
  obtain ⟨shared, hperm, hsublist⟩ := List.subperm_of_subset hnodup hsubset
  rw [hmemory, ← (hperm.map stepMemory).sum_eq]
  exact (hsublist.map stepMemory).sum_le_sum fun _ _ => Nat.zero_le _

end CodeSet

/-! ## The pattern -/

theorem Pattern.compile_of {source : String} {node : Node} {e : Expr}
    (hnode : Node.ofText source.toList = .ok node)
    (hmeaning : (node.meaning {}).map Prod.fst = .ok e) : compile source = ofExpr source e := by
  unfold compile
  rw [hnode]
  show (node.meaning {} >>= _) = _
  cases hresult : node.meaning {} with
  | error error =>
    rw [hresult] at hmeaning
    cases hmeaning
  | ok result =>
    rw [hresult] at hmeaning
    cases hmeaning
    rfl

namespace Condition

/-- The form of a condition. -/
def grammar : String := "(?mR)^%\\\x7bREQUEST_([A-Za-z0-9_]+)\\\x7d (.+)$"

/-- The character as it stands. -/
def plain (c : Char) : Literal := { char := c, byteEscape := false }

def grammarNode : Node := .concat <|
  [.flags [⟨.multiLine, true⟩, ⟨.crlf, true⟩], .assertion .lineStart] ++
  ConditionLine.opening.map (fun c => .literal (plain c)) ++
  [.group (.capture 1 none) (.repetition ⟨1, none⟩ true (.bracketed false (.union
    [.range (plain 'A') (plain 'Z'), .range (plain 'a') (plain 'z'),
      .range (plain '0') (plain '9'), .literal (plain '_')]))),
   .literal (plain '\x7d'), .literal (plain ' '),
   .group (.capture 2 none) (.repetition ⟨1, none⟩ true .dot), .assertion .lineEnd]

def grammarExpr : Expr :=
  .cat (.look (.lineStart true)) <| .cat (.text ConditionLine.opening) <|
  .cat (.group 1 none (.repeated 1 none true (.chars nameChars false))) <|
  .cat (.text ['\x7d', ' ']) <|
  .cat (.group 2 none (.repeated 1 none true (.chars lineChars false))) (.look (.lineEnd true))

def grammarPattern : Pattern := ⟨grammar, grammarProgram, 2, []⟩

theorem memory_lineChars_le : lineChars.memory .forward ≤ 2304 :=
  Nat.le_trans (CodeSet.memory_forward_le rfl) (by decide +kernel)

theorem fits_grammarExpr : grammarExpr.fits = true := by
  have hanchored : grammarExpr.isAnchored .forward = false := rfl
  have hopening : (ByteWord.ofText ConditionLine.opening .forward).length = 10 := by decide +kernel
  have hclosing : (ByteWord.ofText ['\x7d', ' '] .forward).length = 2 := by decide +kernel
  have hname : nameChars.memory .forward = 96 := rfl
  have hforward : grammarExpr.memory .forward ≤ Expr.maxMemory := by
    simp only [Expr.memory, hanchored]
    simp only [Expr.partMemory, grammarExpr, PartMemory.copies, PartMemory.exit, hopening, hclosing,
      hname]
    have hline := memory_lineChars_le
    generalize lineChars.memory .forward = n at hline ⊢
    simp
    exact Nat.le_trans (show _ ≤ 4000 by omega) (by decide +kernel)
  have hbackward : grammarExpr.memory .backward ≤ Expr.maxMemory := by decide +kernel
  unfold Expr.fits
  rw [decide_eq_true hforward, decide_eq_true hbackward]
  rfl

/-- The flags in force behind the first item. -/
def lineFlags : Flags := { multiLine := true, crlf := true }

theorem meaning_plain (c : Char) :
    (Node.literal (plain c)).meaning lineFlags = .ok (.text [c], lineFlags) := by
  have hsort : CodeSet.normalize ⟨[⟨c.toNat, c.toNat⟩]⟩ = ⟨[⟨c.toNat, c.toNat⟩]⟩ := by
    simp [CodeSet.normalize, CodeSet.sweep]
  have hset : Expr.ofSet (.single c.toNat) false = .text [c] := by
    unfold Expr.ofSet CodeSet.single
    rw [hsort]
    simp
  exact congrArg (fun e => Except.ok (e, lineFlags)) hset

theorem meaning_grammarNode : (grammarNode.meaning {}).map Prod.fst = .ok grammarExpr := by
  have hname : (Node.bracketed false (.union [.range (plain 'A') (plain 'Z'),
      .range (plain 'a') (plain 'z'), .range (plain '0') (plain '9'), .literal (plain '_')])).meaning
        lineFlags = .ok (.chars nameChars false, lineFlags) := by cbv
  have hline : Node.dot.meaning lineFlags = .ok (.chars lineChars false, lineFlags) := by cbv
  have hflags : (Node.flags [⟨.multiLine, true⟩, ⟨.crlf, true⟩]).meaning {} =
    .ok (.empty, lineFlags) := rfl
  have hassertion : ∀ a, (Node.assertion a).meaning lineFlags =
    .ok (.look (a.meaning lineFlags), lineFlags) := fun _ => rfl
  have hgroup : ∀ body s i, body.meaning lineFlags = .ok (.chars s false, lineFlags) →
      (Node.group (.capture i none) (.repetition ⟨1, none⟩ true body)).meaning lineFlags =
        .ok (.group i none (.repeated 1 none true (.chars s false)), lineFlags) := by
    intro body s i h
    simp only [Node.meaning, h, bind, Except.bind, pure, Except.pure]
    rfl
  have hopening : ConditionLine.opening = ['%', '\x7b', 'R', 'E', 'Q', 'U', 'E', 'S', 'T', '_'] := by
    rfl
  unfold grammarNode
  rw [Node.meaning, hopening]
  simp only [List.map_cons, List.map_nil, List.cons_append, List.nil_append, Node.listMeaning, hflags,
    hassertion, meaning_plain, hgroup _ _ _ hname, hgroup _ _ _ hline, bind, Except.bind, pure,
    Except.pure]
  rfl

/-- The form is a pattern that compiles. -/
theorem compile_grammar : Pattern.compile grammar = .ok grammarPattern := by
  have hnode : Node.ofText grammar.toList = .ok grammarNode := by with_unfolding_all rfl
  have hgroups : grammarExpr.groups = [(1, none), (2, none)] := rfl
  have hprogram : grammarExpr.program = grammarProgram := by rfl
  rw [Pattern.compile_of hnode meaning_grammarNode]
  unfold Pattern.ofExpr
  rw [if_pos fits_grammarExpr, hprogram, hgroups]
  rfl

/-! ## What a search finds -/

/-- The match of a condition whose line starts at the position. -/
def matchOf (p : ℕ) (l : ConditionLine) : Match :=
  let name := p + ConditionLine.opening.length
  let pattern := name + l.subject.length + 2
  let stop := pattern + l.pattern.length
  ⟨⟨p, stop⟩, [some ⟨name, name + l.subject.length⟩, some ⟨pattern, stop⟩]⟩

/-- The text of each group of a match. -/
def captures (text : List Char) (m : Match) : List (Option (List Char)) :=
  m.groups.map (Option.map (·.slice text))

theorem slice_append {start stop : ℕ} {front part : List Char} (hstart : front.length = start)
    (hstop : start + part.length = stop) (rest : List Char) :
    Span.slice ⟨start, stop⟩ (front ++ (part ++ rest)) = part := by
  subst hstart hstop
  unfold Span.slice
  rw [← List.append_assoc, ← List.length_append, List.take_left, List.drop_left]

theorem captures_matchOf {front line : List Char} {l : ConditionLine} (h : l.Written line)
    (rest : List Char) :
    captures (front ++ (line ++ rest)) (matchOf front.length l) =
      [some l.subject, some l.pattern] := by
  have hsubject : front ++ (line ++ rest) = (front ++ ConditionLine.opening) ++
      (l.subject ++ ('\x7d' :: ' ' :: (l.pattern ++ rest))) := by
    simp [h.text]
  have hpattern : front ++ (line ++ rest) =
      (front ++ (ConditionLine.opening ++ (l.subject ++ ['\x7d', ' ']))) ++ (l.pattern ++ rest) := by
    simp [h.text]
  unfold captures matchOf
  simp only [List.map_cons, List.map_nil, Option.map_some]
  congr 2
  · rw [hsubject, slice_append (List.length_append ..) rfl]
  · rw [hpattern, slice_append (by simp; omega) rfl]

/-- A search finds the first line of the form of a condition, with its two parts as the groups, and
nothing in a text without such a line. -/
theorem find?_grammar (text : List Char) :
    (grammarPattern.find? text).map (captures text) =
      (ConditionLine.ofText? text).map fun l => [some l.subject, some l.pattern] := by
  have hfinds : Finds 0 (splitLines text) text (search grammarPattern.program text) :=
    finds_of_lines (lines_splitLines text) rfl
  unfold Finds at hfinds
  unfold ConditionLine.ofText? Pattern.find?
  split at hfinds
  · rename_i hnone
    rw [hnone, hfinds]
    rfl
  · rename_i l hfirst
    obtain ⟨front, line, rest, rfl, hwritten, hfound⟩ := hfinds
    rw [hfirst, hfound, Nat.zero_add]
    exact congrArg some (captures_matchOf hwritten rest)

/-! ## What a text is read as -/

theorem parse_eq_always_iff {text : String} : parse text = .always ↔ text = "" := by
  unfold parse
  rw [← String.isEmpty_iff]
  by_cases hempty : text.isEmpty = true
  · simp [hempty]
  · rw [if_neg hempty]
    cases ConditionLine.ofText? text.toList with
    | none => simp [hempty]
    | some l => cases hcompile : l.compile <;> simp [hempty, hcompile]

theorem parse_eq_matching_iff {text raw name : String} {pattern : Pattern} :
    parse text = .matching raw name pattern ↔ raw = text ∧ ∃ l : ConditionLine,
      l.IsFirstIn text.toList ∧
      Pattern.compile ("(?m)" ++ String.ofList l.pattern) = .ok pattern ∧
      name = String.ofList (l.subject.map Char.toLower) := by
  simp only [ConditionLine.isFirstIn_iff, ← ConditionLine.compile_eq, ← ConditionLine.name_eq]
  unfold parse
  by_cases hempty : text.isEmpty = true
  · have hnone : ConditionLine.ofText? text.toList = none := by
      rw [String.isEmpty_iff.mp hempty]
      rfl
    simp [hempty, hnone]
  · rw [if_neg hempty]
    cases ConditionLine.ofText? text.toList with
    | none => simp
    | some l => cases hcompile : l.compile <;> simp [hcompile, eq_comm, and_comm]

theorem parse_eq_malformed_iff {text raw : String} :
    parse text = .malformed raw ↔ raw = text ∧ text ≠ "" ∧
      ∀ l : ConditionLine, l.IsFirstIn text.toList →
        ∃ e, Pattern.compile ("(?m)" ++ String.ofList l.pattern) = .error e := by
  simp only [ConditionLine.isFirstIn_iff, ← ConditionLine.compile_eq]
  unfold parse
  rw [Ne, ← String.isEmpty_iff]
  by_cases hempty : text.isEmpty = true
  · simp [hempty]
  · rw [if_neg hempty]
    cases ConditionLine.ofText? text.toList with
    | none => simp [hempty, eq_comm]
    | some l => cases hcompile : l.compile <;> simp [hempty, hcompile, eq_comm]

/-- The event tells that the pattern of a condition does not compile. -/
def TellsBadPattern (e : Event) : Bool := e.message = "Condition pattern does not compile"

/-- Of an accepted rule a bad pattern is told once, if the text of its condition has one. -/
theorem filter_tellsBadPattern {raw : RawRule} {rule : Rule} {text : String}
    (hr : Rule.compile raw = .ok rule) (given : raw.condition = some (.string text))
    (logger : Logger) :
    (logger.allEvents raw.reports).filter TellsBadPattern =
      if hasBadPattern text then [(Warning.conditionPattern text).event] else [] := by
  have hregistered : (logger.events (.registered rule)).filter TellsBadPattern = [] := by
    cases logger <;> rfl
  rw [RawRule.allEvents_reports_ok hr, List.filter_append, hregistered, List.append_nil]
  unfold Rule.warnings
  rw [hr, given]
  dsimp only
  have hcondition : ((if hasBadPattern text then [Warning.conditionPattern text] else []).map
      Warning.event).filter TellsBadPattern =
        if hasBadPattern text then [(Warning.conditionPattern text).event] else [] := by
    cases hasBadPattern text <;> rfl
  rw [List.map_append, List.filter_append, hcondition]
  -- a redirect is told in other words
  refine (congrArg _ ?_).trans (List.append_nil _)
  split
  · split <;> rfl
  · rfl

/-- **The form of a condition.** The form is the pattern `grammar`, and what a search with it finds
is the first line of the form. The empty text is no condition. Of any other text the first line of
the form decides, whatever follows it: it has to be there and its pattern has to compile, with
anchors at the ends of lines; the name is taken in lower case. There is a warning of an accepted
rule just if the line is there and its pattern does not compile. -/
theorem parse_reads_form :
    (∃ form, Pattern.compile grammar = .ok form ∧ ∀ (text : List Char) (found),
      (form.find? text).map (captures text) = some found ↔
        ∃ l : ConditionLine, l.IsFirstIn text ∧ found = [some l.subject, some l.pattern]) ∧
    ∀ text : String,
      (parse text = .always ↔ text = "") ∧
      (∀ raw name pattern, parse text = .matching raw name pattern ↔
        raw = text ∧ ∃ l : ConditionLine,
          l.IsFirstIn text.toList ∧
          Pattern.compile ("(?m)" ++ String.ofList l.pattern) = .ok pattern ∧
          name = String.ofList (l.subject.map Char.toLower)) ∧
      (∀ raw, parse text = .malformed raw ↔
        raw = text ∧ text ≠ "" ∧ ∀ l : ConditionLine, l.IsFirstIn text.toList →
          ∃ e, Pattern.compile ("(?m)" ++ String.ofList l.pattern) = .error e) ∧
      ∀ (raw : RawRule) (rule : Rule) (logger : Logger),
        raw.condition = some (.string text) → Rule.compile raw = .ok rule →
          rule.condition = parse text ∧
          ((∃ (l : ConditionLine) (e : PatternError), l.IsFirstIn text.toList ∧
              Pattern.compile ("(?m)" ++ String.ofList l.pattern) = .error e) →
            (logger.allEvents raw.reports).filter TellsBadPattern =
              [⟨.warn, "Condition pattern does not compile", [("condition", .string text)]⟩]) ∧
          ((¬ ∃ (l : ConditionLine) (e : PatternError), l.IsFirstIn text.toList ∧
              Pattern.compile ("(?m)" ++ String.ofList l.pattern) = .error e) →
            (logger.allEvents raw.reports).filter TellsBadPattern = []) := by
  refine ⟨⟨grammarPattern, compile_grammar, fun text found => ?_⟩, fun text => ⟨?_, ?_, ?_, ?_⟩⟩
  · rw [find?_grammar, Option.map_eq_some_iff]
    simp only [ConditionLine.isFirstIn_iff, eq_comm]
  · exact parse_eq_always_iff
  · exact fun _ _ _ => parse_eq_matching_iff
  · exact fun _ => parse_eq_malformed_iff
  · intro raw rule logger given hr
    obtain ⟨-, -, -, hcondition, -⟩ := Rule.compile_eq_ok_iff.mp hr
    rw [filter_tellsBadPattern hr given, ← hasBadPattern_iff]
    refine ⟨?_, ?_, ?_⟩
    · rw [hcondition, given]
      rfl
    · intro hbad
      rw [if_pos hbad]
      rfl
    · intro hgood
      rw [if_neg hgood]

/-! ## Texts of several lines -/

/-- The second line has the form of a condition, and the last one comes too late. -/
def agentText : String := "# gate\r%\x7bREQUEST_User_Agent\x7d ^a$\n%\x7bREQUEST_URL\x7d ("

/-- The last line would do, but comes too late. -/
def brokenText : String := "-\r\n%\x7bREQUEST_URL\x7d (\r%\x7bREQUEST_URL\x7d a"

def brokenRule : RawRule :=
  ⟨some (.string brokenText), some (.string "^/a$"), some (.string "/b"), none⟩

theorem isFirstIn_agentText :
    (⟨"User_Agent".toList, "^a$".toList⟩ : ConditionLine).IsFirstIn agentText.toList :=
  ConditionLine.isFirstIn_iff.mpr (by decide)

theorem isFirstIn_brokenText :
    (⟨"URL".toList, ['(']⟩ : ConditionLine).IsFirstIn brokenText.toList :=
  ConditionLine.isFirstIn_iff.mpr (by decide)

/-- The name is taken in lower case, and anchors match at the ends of a line in between. Of a bad
line there is a warning, and the good one behind it does not count. -/
theorem parse_reads_form_lines :
    (∃ pattern, Pattern.compile "(?m)^a$" = .ok pattern ∧
      pattern.isMatch "b\na\nc".toList = true ∧
      parse agentText = .matching agentText "user_agent" pattern) ∧
    ∃ rule, Rule.compile brokenRule = .ok rule ∧
      rule.condition = .malformed brokenText ∧
      (Logger.silent.allEvents brokenRule.reports).filter TellsBadPattern =
        [⟨.warn, "Condition pattern does not compile", [("condition", .string brokenText)]⟩] := by
  constructor
  · have heval : ((Pattern.compile "(?m)^a$").toOption.any fun p =>
        p.isMatch "b\na\nc".toList) = true := by
      decide +kernel
    obtain ⟨pattern, hcompile, hmatch⟩ := exists_ok_of_any heval
    obtain ⟨-, hmatching, -⟩ := parse_reads_form.2 agentText
    exact ⟨pattern, hcompile, hmatch,
      (hmatching _ _ _).mpr ⟨rfl, _, isFirstIn_agentText, hcompile, by decide⟩⟩
  · have hrule : ((Rule.compile brokenRule).toOption.any fun _ => true) = true := by decide +kernel
    obtain ⟨rule, hrule, -⟩ := exists_ok_of_any hrule
    obtain ⟨e, hbad⟩ : ∃ e, Pattern.compile "(?m)(" = .error e := by
      have hnone : (Pattern.compile "(?m)(").toOption.isNone = true := by decide +kernel
      cases h : Pattern.compile "(?m)(" with
      | error e => exact ⟨e, rfl⟩
      | ok p =>
        rw [h] at hnone
        cases hnone
    obtain ⟨-, -, hmalformed, hwarned⟩ := parse_reads_form.2 brokenText
    obtain ⟨hcondition, htold, -⟩ := hwarned brokenRule rule .silent rfl hrule
    refine ⟨rule, hrule, hcondition.trans ?_, htold ⟨_, e, isFirstIn_brokenText, hbad⟩⟩
    refine (hmalformed _).mpr ⟨rfl, by decide, fun l hl => ?_⟩
    have hline := (ConditionLine.isFirstIn_iff.mp isFirstIn_brokenText).symm.trans
      (ConditionLine.isFirstIn_iff.mp hl)
    obtain rfl := Option.some.inj hline
    exact ⟨e, hbad⟩

end Condition

end Detour
