import Detour.Pattern.Basic
import Detour.Text.Digit

/-!
# Templates of target addresses

A template is text with references to a match: `$1` to `$99` for groups, `$&` for the match,
`` $` `` and `$'` for what stands before and after it, `$<name>` for a named group, `$$` for a
dollar sign. `replaceFirst` puts a template in the place of the first match. Any other dollar sign
stands for itself, and inserted text is not read again.
-/

namespace Detour.Template

/-- The token that stands for the method of the request. -/
def methodToken : List Char := "%\x7bREQUEST_METHOD\x7d".toList

/-- The text with the first occurrence of `token` replaced. -/
def replaceToken (token by' : List Char) : List Char → List Char
  | [] => if token.isEmpty then by' else []
  | c :: cs =>
    if token.isPrefixOf (c :: cs) then by' ++ (c :: cs).drop token.length
    else c :: replaceToken token by' cs

/-- The template with its first method token replaced by the method. -/
def substituteMethod (template method : List Char) : List Char :=
  replaceToken methodToken method template

/-- What the references of a template refer to. -/
structure Context where
  pattern : Pattern
  found : Match
  input : List Char

namespace Context

/-- The text of a group, empty if the group took no part. -/
def group (x : Context) (n : Nat) : List Char :=
  match x.found.groups[n - 1]? with
  | some (some s) => s.slice x.input
  | _ => []

/-- Is there a group of that number? -/
def hasGroup (x : Context) (n : Nat) : Bool := 1 ≤ n && n ≤ x.pattern.groupCount

/-- The text of the group with the given name, empty if there is none. -/
def named (x : Context) (name : List Char) : List Char :=
  match x.pattern.groupNamed? (String.ofList name) with
  | some n => x.group n
  | none => []

end Context

/-- The reference that follows a dollar sign: how many characters it takes and the text that it
stands for. Two digits are read together only if there is a group of that number. -/
def reference? (x : Context) : List Char → Option (Nat × List Char)
  | [] => none
  | c :: rest =>
    if c = '$' then some (1, ['$'])
    else if c = '&' then some (1, x.found.whole.slice x.input)
    else if c = '\x60' then some (1, x.found.whole.before x.input)
    else if c = '\'' then some (1, x.found.whole.after x.input)
    else if c.isDigit then
      let first := digitsValue 10 [c]
      let both := match rest with
        | d :: _ => if d.isDigit then digitsValue 10 [c, d] else 0
        | [] => 0
      if x.hasGroup both then some (2, x.group both)
      else if x.hasGroup first then some (1, x.group first)
      else none
    else if c = '<' ∧ x.pattern.names ≠ [] then
      match rest.span (· ≠ '>') with
      | (_, []) => none
      | (name, _ :: _) => some (name.length + 2, x.named name)
    else none

/-- The template with its references replaced. -/
def expand (x : Context) : List Char → List Char
  | [] => []
  | c :: rest =>
    if c = '$' then
      match reference? x rest with
      | some (length, text) => text ++ expand x (rest.drop length)
      | none => '$' :: expand x rest
    else c :: expand x rest
termination_by cs => cs.length
decreasing_by all_goals (simp only [List.length_drop, List.length_cons]; omega)

/-- The input with the first match of the pattern replaced by the expanded template, or the input
itself if nothing matches. -/
def replaceFirst (pattern : Pattern) (input template : List Char) : List Char :=
  match pattern.find? input with
  | none => input
  | some found =>
    found.whole.before input ++ expand ⟨pattern, found, input⟩ template ++
      found.whole.after input

end Detour.Template
