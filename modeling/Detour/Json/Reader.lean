import Detour.Json.Value
import Detour.Text.Digit

/-!
# Reading JSON

`Json.ofText` reads a whole text. The nesting is limited. A number becomes an integer if it is
written as one and fits 64 bits; otherwise it is rounded twice, first its leading digits to a
floating-point number and then the result of scaling that by a power of ten.
-/

namespace Detour

/-- The reasons for which a text is no JSON value. -/
inductive JsonError where
  /-- The text does not follow the grammar, or ends too early. -/
  | malformed
  /-- A number is too large for a floating-point number. -/
  | numberRange
  /-- Arrays and objects are nested too deeply. -/
  | tooDeep
deriving Repr, DecidableEq, Inhabited

namespace JsonText

/-- How much of a value is checked. A value that nobody reads may nest to any depth, hold numbers of
any size and escape any code unit. -/
inductive Scrutiny where
  | full
  | grammarOnly
deriving Repr, DecidableEq, Inhabited

/-- Levels of arrays and objects in a value. -/
def maxDepth : Nat := 127

def isBlank (c : Char) : Bool := c = ' ' || c = '\n' || c = '\t' || c = '\r'

def skipBlanks (cs : List Char) : List Char := cs.dropWhile isBlank

/-! ## Numbers -/

/-- The largest number of leading digits that are kept as they are. -/
def maxSignificand : Nat := 0xffff_ffff_ffff_ffff

/-- The largest size of a negative number that is kept as an integer. -/
def maxNegative : Nat := 0x8000_0000_0000_0000

/-- The parts of a number as it is written. -/
structure NumberText where
  negative : Bool
  whole : List Char
  /-- Digits after the point, if there is one. -/
  fraction : Option (List Char)
  /-- Sign and digits of the exponent, if there is one. -/
  exponent : Option (Bool × List Char)

/-- Digits, at least one, and the rest. -/
def readDigits (cs : List Char) : Except JsonError (List Char × List Char) :=
  match cs.span Char.isDigit with
  | ([], _) => .error .malformed
  | (digits, rest) => .ok (digits, rest)

/-- The exponent at the head of the text, if there is one. -/
def readExponent (cs : List Char) : Except JsonError (Option (Bool × List Char) × List Char) :=
  let signed (negative : Bool) (cs : List Char) :=
    (readDigits cs).map fun (digits, rest) => (some (negative, digits), rest)
  let afterMark (cs : List Char) :=
    match cs with
    | '+' :: cs => signed false cs
    | '-' :: cs => signed true cs
    | cs => signed false cs
  match cs with
  | 'e' :: cs => afterMark cs
  | 'E' :: cs => afterMark cs
  | cs => .ok (none, cs)

/-- The parts of the number at the head of the text. A zero is not followed by digits. -/
def readNumberText (cs : List Char) : Except JsonError (NumberText × List Char) := do
  let (negative, cs) := match cs with
    | '-' :: cs => (true, cs)
    | cs => (false, cs)
  let (whole, cs) ← readDigits cs
  if whole.length > 1 && whole.head? = some '0' then throw .malformed
  let (fraction, cs) ← match cs with
    | '.' :: cs => do
      let (digits, cs) ← readDigits cs
      pure (some digits, cs)
    | cs => pure (none, cs)
  let (exponent, cs) ← readExponent cs
  return (⟨negative, whole, fraction, exponent⟩, cs)

/-- The leading digits of a number and how many of the others count as a power of ten. -/
structure Significand where
  value : Nat
  dropped : Nat
  full : Bool

/-- Takes in one more digit as long as the value stays within 64 bits. -/
def Significand.push (s : Significand) (c : Char) : Significand :=
  let value := s.value * 10 + (digitValue? 10 c).getD 0
  if s.full || value > maxSignificand then { s with dropped := s.dropped + 1, full := true }
  else { s with value := value }

/-- The floating-point number nearest to a power of ten. -/
def powerOfTen (exponent : Nat) : Option Binary64 := Binary64.ofDecimal false 1 exponent

/-- The largest power of ten that is a finite number. -/
def maxPower : Nat := 308

/-- The value divided by a power of ten, `steps` times by the largest one and then by the rest. -/
def scaleDown (x : Binary64) (rest : Nat) : Nat → Option Binary64
  | 0 => (powerOfTen rest).bind x.div
  | steps + 1 =>
    if x.isZero then some x
    else ((powerOfTen maxPower).bind x.div).bind fun y => scaleDown y rest steps

/-- The value of a number that is not an integer. -/
def scaled (negative : Bool) (significand : Nat) (exponent : Int) : Except JsonError Binary64 :=
  let result := match Binary64.ofNat significand, exponent with
    | none, _ => none
    | some x, .ofNat n =>
      if n ≤ maxPower then (powerOfTen n).bind x.mul
      else if x.isZero then some x
      else none
    | some x, .negSucc n => scaleDown x (n % maxPower + 1) (n / maxPower)
  match result with
  | some x => .ok { x with negative := negative }
  | none => .error .numberRange

/-- The largest exponent that is read as a number. -/
def maxExponent : Nat := 0x7fff_ffff

/-- The value of a number with a point, an exponent or too many digits. -/
def floatValue (t : NumberText) : Except JsonError Binary64 :=
  let whole := t.whole.foldl Significand.push ⟨0, 0, false⟩
  let all := (t.fraction.getD []).foldl Significand.push { whole with full := false }
  let kept := (t.fraction.getD []).length - (all.dropped - whole.dropped)
  let base : Int := (whole.dropped : Int) - (kept : Int)
  match t.exponent with
  | none => scaled t.negative all.value base
  | some (below, digits) =>
    let e := digitsValue 10 digits
    if e > maxExponent then
      if all.value ≠ 0 && !below then .error .numberRange else .ok (.zero t.negative)
    else scaled t.negative all.value (if below then base - e else base + e)

/-- The value of a number. -/
def numberValue (t : NumberText) : Except JsonError Json :=
  let n := digitsValue 10 t.whole
  if t.fraction.isNone && t.exponent.isNone && n ≤ maxSignificand then
    if !t.negative then .ok (.int n)
    else if 0 < n && n ≤ maxNegative then .ok (.int (-n))
    else (scaled true n 0).map .float
  else (floatValue t).map .float

/-! ## Strings -/

/-- The code unit written by four hexadecimal digits. -/
def readUnit : List Char → Except JsonError (Nat × List Char)
  | a :: b :: c :: d :: rest =>
    if [a, b, c, d].all (isDigitIn 16) then .ok (digitsValue 16 [a, b, c, d], rest)
    else .error .malformed
  | _ => .error .malformed

/-- The character after a `\u`: one code unit, or a pair of surrogates. A surrogate without its
other half is refused under full scrutiny. -/
def readUnicode (scrutiny : Scrutiny) (cs : List Char) : Except JsonError (Char × List Char) := do
  let (unit, rest) ← readUnit cs
  if scrutiny = .grammarOnly then return (Char.ofNat unit, rest)
  if 0xDC00 ≤ unit && unit ≤ 0xDFFF then throw .malformed
  if unit < 0xD800 || 0xDBFF < unit then return (Char.ofNat unit, rest)
  match rest with
  | '\\' :: 'u' :: rest =>
    let (low, rest) ← readUnit rest
    if low < 0xDC00 || 0xDFFF < low then throw .malformed
    return (Char.ofNat (0x10000 + (unit - 0xD800) * 0x400 + (low - 0xDC00)), rest)
  | _ => throw .malformed

/-- The character that a backslash introduces. -/
def readEscape (scrutiny : Scrutiny) : List Char → Except JsonError (Char × List Char)
  | '"' :: rest => .ok ('"', rest)
  | '\\' :: rest => .ok ('\\', rest)
  | '/' :: rest => .ok ('/', rest)
  | 'b' :: rest => .ok ('\x08', rest)
  | 'f' :: rest => .ok ('\x0c', rest)
  | 'n' :: rest => .ok ('\n', rest)
  | 'r' :: rest => .ok ('\r', rest)
  | 't' :: rest => .ok ('\t', rest)
  | 'u' :: rest => readUnicode scrutiny rest
  | _ => .error .malformed

/-- A string after its opening quote. Every turn takes a character, so the length of the text is
fuel enough. -/
def readStringLoop (scrutiny : Scrutiny) :
    Nat → List Char → List Char → Except JsonError (String × List Char)
  | 0, _, _ => .error .malformed
  | fuel + 1, acc, cs =>
    match cs with
    | [] => .error .malformed
    | '"' :: rest => .ok (String.ofList acc.reverse, rest)
    | '\\' :: rest =>
      match readEscape scrutiny rest with
      | .ok (c, rest) => readStringLoop scrutiny fuel (c :: acc) rest
      | .error e => .error e
    | c :: rest =>
      if c.toNat < 0x20 then .error .malformed else readStringLoop scrutiny fuel (c :: acc) rest

def readString (scrutiny : Scrutiny) (cs : List Char) : Except JsonError (String × List Char) :=
  readStringLoop scrutiny (cs.length + 1) [] cs

/-! ## Values -/

/-- The text after a word that has to stand at its head. -/
def expectWord (word : List Char) (value : Json) (cs : List Char) :
    Except JsonError (Json × List Char) :=
  if word.isPrefixOf cs then .ok (value, cs.drop word.length) else .error .malformed

def readNumber (scrutiny : Scrutiny) (cs : List Char) : Except JsonError (Json × List Char) := do
  let (t, rest) ← readNumberText cs
  match scrutiny with
  | .full => return (← numberValue t, rest)
  | .grammarOnly => return (.null, rest)

mutual

/-- A value at the head of the text, at most `depth` levels deep under full scrutiny. Every turn
of the three functions takes a character or goes from one function to the next, so twice the length
of the text is fuel enough. -/
def readValue (scrutiny : Scrutiny) :
    Nat → Nat → List Char → Except JsonError (Json × List Char)
  | 0, _, _ => .error .malformed
  | fuel + 1, depth, cs =>
    match skipBlanks cs with
    | 'n' :: rest => expectWord ['u', 'l', 'l'] .null rest
    | 't' :: rest => expectWord ['r', 'u', 'e'] (.bool true) rest
    | 'f' :: rest => expectWord ['a', 'l', 's', 'e'] (.bool false) rest
    | '"' :: rest => (readString scrutiny rest).map fun (s, rest) => (.string s, rest)
    | '[' :: rest =>
      if scrutiny = .full && depth = 0 then .error .tooDeep
      else
        match skipBlanks rest with
        | ']' :: rest => .ok (.array [], rest)
        | rest => readItems scrutiny fuel (depth - 1) [] rest
    | '\x7b' :: rest =>
      if scrutiny = .full && depth = 0 then .error .tooDeep
      else
        match skipBlanks rest with
        | '\x7d' :: rest => .ok (.object [], rest)
        | rest => readMembers scrutiny fuel (depth - 1) [] rest
    | rest => readNumber scrutiny rest

/-- The items of an array up to its closing bracket. -/
def readItems (scrutiny : Scrutiny) :
    Nat → Nat → List Json → List Char → Except JsonError (Json × List Char)
  | 0, _, _, _ => .error .malformed
  | fuel + 1, depth, acc, cs =>
    match readValue scrutiny fuel depth cs with
    | .error e => .error e
    | .ok (v, rest) =>
      match skipBlanks rest with
      | ',' :: rest => readItems scrutiny fuel depth (v :: acc) rest
      | ']' :: rest => .ok (.array (v :: acc).reverse, rest)
      | _ => .error .malformed

/-- The members of an object up to its closing brace. -/
def readMembers (scrutiny : Scrutiny) :
    Nat → Nat → List (String × Json) → List Char → Except JsonError (Json × List Char)
  | 0, _, _, _ => .error .malformed
  | fuel + 1, depth, acc, cs =>
    match skipBlanks cs with
    | '"' :: rest =>
      match readString scrutiny rest with
      | .error e => .error e
      | .ok (name, rest) =>
        match skipBlanks rest with
        | ':' :: rest =>
          match readValue scrutiny fuel depth rest with
          | .error e => .error e
          | .ok (v, rest) =>
            match skipBlanks rest with
            | ',' :: rest => readMembers scrutiny fuel depth ((name, v) :: acc) rest
            | '\x7d' :: rest => .ok (Json.ofMembers ((name, v) :: acc).reverse, rest)
            | _ => .error .malformed
        | _ => .error .malformed
    | _ => .error .malformed

end

/-- A value at the head of the text, and the rest. -/
def value (scrutiny : Scrutiny) (depth : Nat) (cs : List Char) :
    Except JsonError (Json × List Char) :=
  readValue scrutiny (2 * cs.length + 2) depth cs

/-- Nothing but blanks is left. -/
def finished (cs : List Char) : Bool := (skipBlanks cs).isEmpty

end JsonText

/-- The value that a text writes. -/
def Json.ofText (text : String) : Except JsonError Json := do
  let (v, rest) ← JsonText.value .full JsonText.maxDepth text.toList
  if JsonText.finished rest then return v else throw .malformed

end Detour
