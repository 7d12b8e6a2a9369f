import Detour.Number.Shortest
import Detour.Text.Digit
import Detour.Toml.Value

/-!
# Keys and simple values of TOML

Readers for what stands on one line, and for strings. Each gives the rest of the text behind what it
read, or nothing if the text has another form.
-/

namespace Detour.TomlText

def isBlank (c : Char) : Bool := c = ' ' || c = '\t'

def skipBlanks (cs : List Char) : List Char := cs.dropWhile isBlank

/-- A character that comments and strings may hold: no control but the tab. -/
def isPlain (c : Char) : Bool :=
  c = '\t' || (0x20 ≤ c.toNat && c.toNat ≤ 0x7E) || 0x80 ≤ c.toNat

/-- Passes over the end of a line. -/
def newline? : List Char → Option (List Char)
  | '\n' :: rest => some rest
  | '\r' :: '\n' :: rest => some rest
  | _ => none

/-- Passes over a comment, if there is one. -/
def skipComment : List Char → List Char
  | '#' :: rest => rest.dropWhile isPlain
  | cs => cs

/-- Passes over blanks and a comment up to the end of the line or of the text. -/
def lineEnd? (cs : List Char) : Option (List Char) :=
  match skipComment (skipBlanks cs) with
  | [] => some []
  | cs => newline? cs

/-- Passes over blanks, comments and line ends, from inside a comment if `comment` is set. -/
def skipLayout (comment : Bool) : List Char → Option (List Char)
  | [] => some []
  | '\n' :: rest => skipLayout false rest
  | '\r' :: '\n' :: rest => skipLayout false rest
  | c :: rest =>
    if comment then if isPlain c then skipLayout true rest else none
    else if isBlank c then skipLayout false rest
    else if c = '#' then skipLayout true rest
    else some (c :: rest)

/-! ## Strings -/

/-- The character written by `n` hexadecimal digits. -/
def hexChar? (code : Nat) : Nat → List Char → Option (Char × List Char)
  | 0, cs => if h : code.isValidChar then some (Char.ofNatAux code h, cs) else none
  | n + 1, cs =>
    match cs with
    | [] => none
    | c :: rest => (digitValue? 16 c).bind fun d => hexChar? (code * 16 + d) n rest

/-- The character that a backslash introduces. -/
def escape? : List Char → Option (Char × List Char)
  | '"' :: rest => some ('"', rest)
  | '\\' :: rest => some ('\\', rest)
  | 'b' :: rest => some ('\x08', rest)
  | 'f' :: rest => some ('\x0c', rest)
  | 'n' :: rest => some ('\n', rest)
  | 'r' :: rest => some ('\r', rest)
  | 't' :: rest => some ('\t', rest)
  | 'u' :: rest => hexChar? 0 4 rest
  | 'U' :: rest => hexChar? 0 8 rest
  | _ => none

/-- A string in double quotes after the first of them. Every turn takes a character, so the length
of the text is fuel enough. -/
def basicString? : Nat → List Char → List Char → Option (String × List Char)
  | 0, _, _ => none
  | fuel + 1, acc, cs =>
    match cs with
    | [] => none
    | '"' :: rest => some (String.ofList acc.reverse, rest)
    | '\\' :: rest =>
      match escape? rest with
      | some (c, rest) => basicString? fuel (c :: acc) rest
      | none => none
    | c :: rest => if isPlain c then basicString? fuel (c :: acc) rest else none

/-- A string in single quotes after the first of them. -/
def literalString? (cs : List Char) : Option (String × List Char) :=
  match cs.span (· ≠ '\'') with
  | (content, _ :: rest) =>
    if content.all isPlain then some (String.ofList content, rest) else none
  | _ => none

/-- The line ends that follow, and the blanks between them and after them; at least one line end. -/
def foldedLines? (cs : List Char) : Option (List Char) :=
  (newline? (skipBlanks cs)).map fun rest => skip rest
where
  skip : List Char → List Char
    | [] => []
    | '\r' :: '\n' :: rest => skip rest
    | c :: rest => if isBlank c || c = '\n' then skip rest else c :: rest

/-- The quotes at the head of a text, which end a string of several lines if they are three or more;
up to two more belong to it. Gives those that belong to it and whether it ends. -/
def closing (quote : Char) (cs : List Char) : Nat × Bool :=
  let n := (cs.takeWhile (· = quote)).length
  if n < 3 then (n, false) else (min n 5 - 3, true)

/-- A string of several lines after its opening quotes. A backslash means something only between
double quotes. -/
def longString? (quote : Char) : Nat → List Char → List Char → Option (String × List Char)
  | 0, _, _ => none
  | fuel + 1, acc, cs =>
    match cs with
    | [] => none
    | c :: rest =>
      if c = quote then
        let (kept, ends) := closing quote cs
        let acc := List.replicate kept quote ++ acc
        if ends then some (String.ofList acc.reverse, cs.drop (kept + 3))
        else longString? quote fuel acc (cs.drop kept)
      else if c = '\\' && quote = '"' then
        match foldedLines? rest with
        | some rest => longString? quote fuel acc rest
        | none =>
          match escape? rest with
          | some (c, rest) => longString? quote fuel (c :: acc) rest
          | none => none
      else
        match newline? cs with
        | some rest => longString? quote fuel ('\n' :: acc) rest
        | none => if isPlain c then longString? quote fuel (c :: acc) rest else none

/-- A string of several lines; a line end right after the opening quotes does not count. -/
def longString (quote : Char) (cs : List Char) : Option (String × List Char) :=
  longString? quote (cs.length + 1) [] ((newline? cs).getD cs)

/-- A string of any of the four kinds. -/
def string? : List Char → Option (String × List Char)
  | '"' :: '"' :: '"' :: rest => longString '"' rest
  | '\'' :: '\'' :: '\'' :: rest => longString '\'' rest
  | '"' :: rest => basicString? (rest.length + 1) [] rest
  | '\'' :: rest => literalString? rest
  | _ => none

/-! ## Keys -/

/-- Parts of a key; one part less than this is the most. -/
def maxKeyParts : Nat := 80

def isBareChar (c : Char) : Bool := c.isAlphanum || c = '_' || c = '-'

/-- One part of a key: bare, or a string on one line. -/
def keyPart? : List Char → Option (String × List Char)
  | '"' :: rest => basicString? (rest.length + 1) [] rest
  | '\'' :: rest => literalString? rest
  | cs =>
    match cs.span isBareChar with
    | ([], _) => none
    | (name, rest) => some (String.ofList name, rest)

/-- The parts of a key with points between them, and blanks around each. -/
def keyParts? : Nat → List Char → Option (List String × List Char)
  | 0, _ => none
  | fuel + 1, cs =>
    match keyPart? (skipBlanks cs) with
    | none => none
    | some (name, rest) =>
      match skipBlanks rest with
      | '.' :: rest => (keyParts? fuel rest).map fun (names, rest) => (name :: names, rest)
      | rest => some ([name], rest)

def key? (cs : List Char) : Option (List String × List Char) :=
  (keyParts? (cs.length + 1) cs).filter fun k => k.1.length < maxKeyParts

/-! ## Numbers -/

/-- Digits with single underscores between them. -/
def digits? (isDigit : Char → Bool) : List Char → Option (List Char × List Char)
  | [] => none
  | c :: rest =>
    if isDigit c then some (more rest |> fun (ds, rest) => (c :: ds, rest)) else none
where
  more : List Char → List Char × List Char
    | [] => ([], [])
    | '_' :: d :: rest =>
      if isDigit d then
        let (ds, left) := more rest
        (d :: ds, left)
      else ([], '_' :: d :: rest)
    | c :: rest =>
      if isDigit c then
        let (ds, left) := more rest
        (c :: ds, left)
      else ([], c :: rest)

/-- A sign, `true` for minus. -/
def sign : List Char → Bool × List Char
  | '+' :: rest => (false, rest)
  | '-' :: rest => (true, rest)
  | cs => (false, cs)

/-- Digits before a point: a zero stands alone. -/
def wholeDigits? : List Char → Option (List Char × List Char)
  | '0' :: rest => some (['0'], rest)
  | cs => digits? Char.isDigit cs

/-- The exponent of a number, if there is one. -/
def exponent? : List Char → Option (Option Int × List Char)
  | c :: rest =>
    if c = 'e' || c = 'E' then
      let (negative, rest) := sign rest
      (digits? Char.isDigit rest).map fun (ds, rest) =>
        let e : Int := digitsValue 10 ds
        (some (if negative then -e else e), rest)
    else some (none, c :: rest)
  | [] => some (none, [])

/-- An integer of 64 bits. -/
def integer64? (n : Int) : Option Toml :=
  if -0x8000_0000_0000_0000 ≤ n ∧ n ≤ 0x7fff_ffff_ffff_ffff then some (.integer n) else none

/-- The value of a float. One that is too large is refused, unless it is negative and so the
negative infinity. -/
def floatValue? (negative : Bool) (digits : Nat) (exponent : Int) : Option Toml :=
  let lead : Int := exponent + digitCount digits
  if digits = 0 || lead < -400 then some (.float (some (.zero negative)))
  else
    match if lead > 400 then none else Binary64.ofDecimal negative digits exponent with
    | some x => some (.float (some x))
    | none => if negative then some (.float none) else none

/-- An integer with the mark of its base. -/
def based? (base : Nat) (cs : List Char) : Option (Toml × List Char) :=
  (digits? (isDigitIn base) cs).bind fun (ds, rest) =>
    (integer64? (digitsValue base ds)).map fun v => (v, rest)

/-- Infinity or no number, after a sign. -/
def specialFloat? : List Char → Option (Toml × List Char)
  | 'i' :: 'n' :: 'f' :: rest => some (.float none, rest)
  | 'n' :: 'a' :: 'n' :: rest => some (.float none, rest)
  | _ => none

/-- A number in base ten, after its sign. -/
def decimal? (negative : Bool) (cs : List Char) : Option (Toml × List Char) := do
  let (whole, rest) ← wholeDigits? cs
  let (fraction, rest) ← match rest with
    | '.' :: rest => (digits? Char.isDigit rest).map fun (ds, rest) => (some ds, rest)
    | rest => some (none, rest)
  let (exponent, rest) ← exponent? rest
  if fraction.isNone && exponent.isNone then
    let n : Int := digitsValue 10 whole
    return (← integer64? (if negative then -n else n), rest)
  else
    let fraction := fraction.getD []
    return (← floatValue? negative (digitsValue 10 (whole ++ fraction))
      (exponent.getD 0 - fraction.length), rest)

/-- A number. -/
def number? : List Char → Option (Toml × List Char)
  | '0' :: 'x' :: rest => based? 16 rest
  | '0' :: 'o' :: rest => based? 8 rest
  | '0' :: 'b' :: rest => based? 2 rest
  | cs =>
    let (negative, rest) := sign cs
    (specialFloat? rest).orElse fun _ => decimal? negative rest

/-! ## Dates and times -/

/-- The number written by exactly `n` digits, if it lies between two bounds. -/
def fixedDigits? (n low high : Nat) (cs : List Char) : Option (Nat × List Char) :=
  let ds := cs.take n
  let v := digitsValue 10 ds
  if ds.length = n && ds.all Char.isDigit && low ≤ v && v ≤ high then some (v, cs.drop n) else none

def mark? (c : Char) : List Char → Option (List Char)
  | [] => none
  | d :: rest => if c = d then some rest else none

/-- The number with as many digits as asked for. -/
def padded (width n : Nat) : List Char :=
  let ds := Nat.toDigits 10 n
  List.replicate (width - ds.length) '0' ++ ds

def isLeapYear (year : Nat) : Bool := year % 4 = 0 && (year % 100 ≠ 0 || year % 400 = 0)

def daysInMonth (year month : Nat) : Nat :=
  match month with
  | 2 => if isLeapYear year then 29 else 28
  | 4 | 6 | 9 | 11 => 30
  | _ => 31

/-- A date and its normalized text. -/
def date? (cs : List Char) : Option (List Char × List Char) := do
  let (year, rest) ← fixedDigits? 4 0 9999 cs
  let (month, rest) ← fixedDigits? 2 1 12 (← mark? '-' rest)
  let (day, rest) ← fixedDigits? 2 1 (daysInMonth year month) (← mark? '-' rest)
  return (padded 4 year ++ '-' :: padded 2 month ++ '-' :: padded 2 day, rest)

/-- The fraction of a second, cut after nine digits and without zeros at its end. -/
def fractionText (ds : List Char) : List Char :=
  match ((ds.take 9).reverse.dropWhile (· = '0')).reverse with
  | [] => []
  | ds => '.' :: ds

/-- A time of day and its normalized text. A minute may have a leap second. -/
def time? (cs : List Char) : Option (List Char × List Char) := do
  let (hour, rest) ← fixedDigits? 2 0 23 cs
  let (minute, rest) ← fixedDigits? 2 0 59 (← mark? ':' rest)
  let (second, rest) ← fixedDigits? 2 0 60 (← mark? ':' rest)
  let text := padded 2 hour ++ ':' :: padded 2 minute ++ ':' :: padded 2 second
  match rest with
  | '.' :: rest =>
    let (ds, rest) := rest.span Char.isDigit
    if ds.isEmpty then none else some (text ++ fractionText ds, rest)
  | rest => some (text, rest)

/-- The offset from universal time, if there is one, and its normalized text. -/
def offset? : List Char → Option (List Char × List Char)
  | [] => some ([], [])
  | c :: rest =>
    if c = 'Z' || c = 'z' then some (['Z'], rest)
    else if c = '+' || c = '-' then do
      let (hour, rest) ← fixedDigits? 2 0 23 rest
      let (minute, rest) ← fixedDigits? 2 0 59 (← mark? ':' rest)
      let shown := if hour = 0 && minute = 0 then '+' else c
      return (shown :: padded 2 hour ++ ':' :: padded 2 minute, rest)
    else some ([], c :: rest)

/-- A date, a time, or both with or without an offset. After a date a blank may stand before a time,
or end the value. -/
def datetime? (cs : List Char) : Option (Toml × List Char) :=
  let asValue (text rest : List Char) : Toml × List Char := (.datetime (String.ofList text), rest)
  match date? cs with
  | none => (time? cs).map fun (text, rest) => asValue text rest
  | some (date, rest) =>
    match rest with
    | c :: after =>
      if c = 'T' || c = 't' || c = ' ' then
        match time? after with
        | some (time, after) =>
          (offset? after).map fun (offset, after) =>
            asValue (date ++ 'T' :: time ++ offset) after
        | none => if c = ' ' then some (asValue date rest) else none
      else some (asValue date rest)
    | [] => some (asValue date [])

end Detour.TomlText
