import Detour.Json.Value
import Detour.Number.Shortest

/-!
# Writing JSON

`Json.render` writes a value without blanks. Only what has to be escaped is.
-/

namespace Detour

namespace JsonText

/-- How floating-point numbers are written: the first digit's exponents from `least` to `greatest`
positionally, others with an exponent. -/
structure FloatLayout where
  least : Int
  greatest : Int
deriving Repr, DecidableEq

/-- Numbers from a hundred thousandth up to below 10^16 are written without an exponent. -/
def layout : FloatLayout := ⟨-5, 15⟩

def zeros (n : Nat) : List Char := List.replicate n '0'

/-- Digits with a point after the first `n`, which are zeros before and after as needed. At least
one digit stands on each side. -/
def positional (digits : List Char) (lead : Int) : List Char :=
  match lead with
  | .negSucc n => '0' :: '.' :: zeros n ++ digits
  | .ofNat n =>
    let whole := digits.take (n + 1) ++ zeros (n + 1 - digits.length)
    let fraction := digits.drop (n + 1)
    whole ++ '.' :: (if fraction.isEmpty then ['0'] else fraction)

/-- Digits with a point after the first, and the exponent with its sign. -/
def scientific (digits : List Char) (lead : Int) : List Char :=
  let mantissa := match digits with
    | [] => ['0']
    | [d] => [d]
    | d :: rest => d :: '.' :: rest
  let sign := if lead < 0 then '-' else '+'
  mantissa ++ 'e' :: sign :: Nat.toDigits 10 lead.natAbs

/-- The text of a floating-point number: its shortest decimal. -/
def renderFloat (x : Binary64) : List Char :=
  let d := x.shortest
  let digits := Nat.toDigits 10 d.digits
  let lead : Int := d.exponent + digits.length - 1
  let text :=
    if layout.least ≤ lead ∧ lead ≤ layout.greatest then positional digits lead
    else scientific digits lead
  if x.negative then '-' :: text else text

def hexDigits (n : Nat) (width : Nat) : List Char :=
  let digits := Nat.toDigits 16 n
  zeros (width - digits.length) ++ digits

/-- A character inside a string. -/
def escapeChar (c : Char) : List Char :=
  match c with
  | '"' => ['\\', '"']
  | '\\' => ['\\', '\\']
  | '\n' => ['\\', 'n']
  | '\r' => ['\\', 'r']
  | '\t' => ['\\', 't']
  | '\x08' => ['\\', 'b']
  | '\x0c' => ['\\', 'f']
  | c => if c.toNat < 0x20 then '\\' :: 'u' :: hexDigits c.toNat 4 else [c]

/-- A string between its quotes. -/
def renderString (s : String) : List Char := '"' :: s.toList.flatMap escapeChar ++ ['"']

def renderInt (n : Int) : List Char :=
  match n with
  | .ofNat n => Nat.toDigits 10 n
  | .negSucc n => '-' :: Nat.toDigits 10 (n + 1)

mutual

/-- The text of a value. -/
def renderValue : Json → List Char
  | .null => ['n', 'u', 'l', 'l']
  | .bool true => ['t', 'r', 'u', 'e']
  | .bool false => ['f', 'a', 'l', 's', 'e']
  | .int n => renderInt n
  | .float x => renderFloat x
  | .string s => renderString s
  | .array items => '[' :: renderItems items
  | .object members => '\x7b' :: renderMembers members

/-- The items of an array and its closing bracket. -/
def renderItems : List Json → List Char
  | [] => [']']
  | [v] => renderValue v ++ [']']
  | v :: rest => renderValue v ++ ',' :: renderItems rest

/-- The members of an object and its closing brace. -/
def renderMembers : List (String × Json) → List Char
  | [] => ['\x7d']
  | [(name, v)] => renderString name ++ ':' :: renderValue v ++ ['\x7d']
  | (name, v) :: rest => renderString name ++ ':' :: renderValue v ++ ',' :: renderMembers rest

end

end JsonText

/-- The text of a value, without blanks. -/
def Json.render (v : Json) : String := String.ofList (JsonText.renderValue v)

end Detour
