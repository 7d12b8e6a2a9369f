import Detour.Rule.Log

/-!
# The store of rules

Rules are kept in the order of their registration. Every change that takes place sets the gauge to
the number of rules.
-/

namespace Detour

/-- The rules in force, and the number last shown by the gauge. -/
structure Store where
  rules : List Rule
  gauge : Option Nat
deriving Repr, Inhabited

namespace Store

def empty : Store := ⟨[], none⟩

def size (s : Store) : Nat := s.rules.length

def isEmpty (s : Store) : Bool := s.rules.isEmpty

/-- Holds the given rules, and shows their number. -/
def install (rules : List Rule) : Store := ⟨rules, some rules.length⟩

/-- Adds a rule behind all others, unless it is refused. -/
def tryRegister (s : Store) (raw : RawRule) : Except RuleError Store :=
  (Rule.compile raw).map fun r => install (s.rules ++ [r])

/-- Adds a rule and tells whether it was accepted. -/
def register (s : Store) (raw : RawRule) : Bool × Store :=
  match s.tryRegister raw with
  | .ok s => (true, s)
  | .error _ => (false, s)

/-- The rules that are accepted. -/
def accepted (raws : List RawRule) : List Rule :=
  raws.filterMap fun raw => (Rule.compile raw).toOption

/-- Puts the accepted rules in the place of all others, and tells their number. -/
def replace (raws : List RawRule) : Nat × Store :=
  let rules := accepted raws
  (rules.length, install rules)

def reset : Store := install []

/-- The store after registering the rules one by one. -/
def ofRaw (raws : List RawRule) : Store := raws.foldl (fun s raw => (s.register raw).2) empty

def display (s : Store) : String :=
  "RuleStore \x7b rules: " ++ toString s.size ++ " \x7d"

end Store

end Detour
