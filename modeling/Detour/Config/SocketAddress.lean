import Detour.Text.Digit

/-!
# Socket addresses

An IPv4 address or an IPv6 address in brackets, then a colon and a number of 16 bits.
`isSocketAddress` decides about a text; the readers below give back what follows the part that they
read.
-/

namespace Detour

namespace SocketAddress

/-- How a number may be written. -/
structure NumberForm where
  base : Nat
  maxDigits : Option Nat
  leadingZeros : Bool
  limit : Nat

/-- Passes over a number: all digits that follow, which have to have the given form. -/
def number? (form : NumberForm) (cs : List Char) : Option (List Char) :=
  let (digits, rest) := cs.span (isDigitIn form.base)
  let zeros := digits.length > 1 && digits.head? = some '0' && !form.leadingZeros
  if digits.isEmpty || form.maxDigits.any (· < digits.length) || zeros ||
      digitsValue form.base digits > form.limit then none
  else some rest

def octet : NumberForm := ⟨10, some 3, false, 255⟩
def group : NumberForm := ⟨16, some 4, true, 0xFFFF⟩
def service : NumberForm := ⟨10, none, true, 0xFFFF⟩
def scope : NumberForm := ⟨10, none, true, 0xFFFFFFFF⟩

/-- Passes over one character. -/
def char? (c : Char) : List Char → Option (List Char)
  | [] => none
  | d :: rest => if c = d then some rest else none

/-- Passes over an IPv4 address: four numbers without leading zeros. -/
def ipv4? (cs : List Char) : Option (List Char) := do
  let cs ← number? octet cs
  let cs ← number? octet (← char? '.' cs)
  let cs ← number? octet (← char? '.' cs)
  number? octet (← char? '.' cs)

/-- Passes over a separator, unless it is the first part. -/
def separator? (first : Bool) (cs : List Char) : Option (List Char) :=
  if first then some cs else char? ':' cs

/-- Passes over as many groups of an IPv6 address as follow, `room` at most. An IPv4 address at the
end counts for two. Gives the number of groups, whether an IPv4 address ended them, and the rest. -/
def groups (first : Bool) : Nat → List Char → Nat × Bool × List Char
  | 0, cs => (0, false, cs)
  | room + 1, cs =>
    match separator? first cs with
    | none => (0, false, cs)
    | some inner =>
      match if room > 0 then ipv4? inner else none with
      | some rest => (2, true, rest)
      | none =>
        match number? group inner with
        | none => (0, false, cs)
        | some rest =>
          let (n, v4, rest) := groups false room rest
          (n + 1, v4, rest)

/-- Passes over an IPv6 address: eight groups, or fewer around two colons. -/
def ipv6? (cs : List Char) : Option (List Char) :=
  let (n, v4, rest) := groups true 8 cs
  if n = 8 then some rest
  else if v4 then none
  else do
    let rest ← char? ':' (← char? ':' rest)
    return (groups true (7 - n) rest).2.2

/-- Passes over a scope after an IPv6 address, if there is one. -/
def skipScope (cs : List Char) : List Char :=
  ((char? '%' cs).bind (number? scope)).getD cs

/-- A colon and a number of 16 bits end the text. -/
def endsInService (cs : List Char) : Bool := ((char? ':' cs).bind (number? service)) = some []

end SocketAddress

/-- Is the text a socket address? -/
def isSocketAddress (text : String) : Bool :=
  let cs := text.toList
  let v4 := SocketAddress.ipv4? cs
  let v6 := do
    let rest ← SocketAddress.ipv6? (← SocketAddress.char? '[' cs)
    SocketAddress.char? ']' (SocketAddress.skipScope rest)
  v4.any SocketAddress.endsInService || v6.any SocketAddress.endsInService

end Detour
