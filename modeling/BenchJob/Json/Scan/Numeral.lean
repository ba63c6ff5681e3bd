import BenchJob.Json.Scan.Basic

/-!
# Numbers in JSON text

A number is written as whole digits without a zero in front, a fraction and an exponent, the last
two of which may be missing. Without them it stands for an integer, if it fits the 64 bits that
integers have; any other number is a float.

A float is made from a significand of 64 bits and a power of ten. Digits are gathered into the
significand as long as they fit; whole digits that no longer fit count as places, and fraction
digits that no longer fit are dropped. The significand is rounded to a float and then multiplied or
divided once, except that very small numbers are divided by `10 ^ 308` first, as often as needed.

## Main definitions

- `Numeral`, `numeral`: a number as it is written, and its reader.
- `Numeral.value`: what it stands for.
- `number`: the value of a number.
-/

namespace BenchJob.Json

/-- A number as it is written: the digits of its parts, and which signs are minus signs. -/
structure Numeral where
  negative : Bool
  whole : List Nat
  fraction : Option (List Nat)
  exponent : Option (Bool × List Nat)
  deriving Repr, DecidableEq

/-! ## Reading -/

def digits (s : List Char) : List Nat × List Char :=
  ((s.takeWhile Char.isDigit).map fun c => c.toNat - '0'.toNat, s.dropWhile Char.isDigit)

def startsWithDigit (s : List Char) : Bool := s.head?.any Char.isDigit

/-- The whole digits: a single zero, or digits that start with another one. -/
def wholePart : List Char → Scan (List Nat)
  | [] => .error (.here .endInValue [])
  | '0' :: rest =>
    if startsWithDigit rest then .error (.atNext .badNumber rest) else .ok ([0], rest)
  | c :: rest =>
    if c.isDigit then .ok (digits (c :: rest)) else .error (.atNext .badNumber (c :: rest))

def fractionPart : List Char → Scan (Option (List Nat))
  | '.' :: rest =>
    if startsWithDigit rest then .ok (some (digits rest).1, (digits rest).2)
    else if rest.isEmpty then .error (.atNext .endInValue [])
    else .error (.atNext .badNumber rest)
  | s => .ok (none, s)

/-- Is there a minus sign in front of a text? The rest stands behind the sign, whichever it is. -/
def exponentSign : List Char → Bool × List Char
  | '+' :: rest => (false, rest)
  | '-' :: rest => (true, rest)
  | s => (false, s)

def exponentPart (s : List Char) : Scan (Option (Bool × List Nat)) :=
  match s with
  | [] => .ok (none, [])
  | c :: rest =>
    if c = 'e' ∨ c = 'E' then
      let (negative, rest) := exponentSign rest
      if startsWithDigit rest then .ok (some (negative, (digits rest).1), (digits rest).2)
      else if rest.isEmpty then .error (.here .endInValue [])
      else .error (.atNext .badNumber rest)
    else .ok (none, s)

def numeral (s : List Char) : Scan Numeral :=
  let (negative, unsigned) := match s with
    | '-' :: rest => (true, rest)
    | s => (false, s)
  match wholePart unsigned with
  | .error e => .error e
  | .ok (whole, rest) =>
    match fractionPart rest with
    | .error e => .error e
    | .ok (fraction, rest) =>
      match exponentPart rest with
      | .error e => .error e
      | .ok (exponent, rest) => .ok (⟨negative, whole, fraction, exponent⟩, rest)

/-! ## Meaning -/

/-- Digits put behind a number as long as it stays below a limit, and the digits that are left. -/
def gather (limit n : Nat) : List Nat → Nat × List Nat
  | [] => (n, [])
  | d :: rest => if 10 * n + d < limit then gather limit (10 * n + d) rest else (n, d :: rest)

/-- A power of ten, rounded to a float. -/
def tenTo (n : Nat) : Float := Float.ofScientific 1 false n

def maxPower : Nat := 308

def divide (x : Float) (places : Nat) : Float :=
  if places ≤ maxPower then x / tenTo places
  else if x == 0 then x
  else divide (x / tenTo maxPower) (places - maxPower)
  termination_by places
  decreasing_by simp only [maxPower] at *; omega

def scaled (significand : Nat) (power : Int) : Option Float :=
  let x := significand.toUInt64.toFloat
  if power < 0 then some (divide x power.natAbs)
  else if significand = 0 then some x
  else if power ≤ maxPower then
    let product := x * tenTo power.toNat
    if product.isInf then none else some product
  else none

namespace Numeral

/-- The significand of 64 bits, and the power of ten that belongs to it without the exponent. -/
def significand (x : Numeral) : Nat × Int :=
  let (n, dropped) := gather UInt64.size 0 x.whole
  let fraction := x.fraction.getD []
  -- Also behind whole digits that were dropped, a digit of the fraction may fit.
  let (m, unused) := gather UInt64.size n fraction
  (m, dropped.length - (fraction.length - unused.length : Nat))

/-- The integer that is written, if it fits. A minus sign before zero makes no integer. -/
def integer? (x : Numeral) : Option Int :=
  let (n, dropped) := gather UInt64.size 0 x.whole
  if x.fraction.isSome || x.exponent.isSome || !dropped.isEmpty then none
  else if !x.negative then some n
  else if 0 < n ∧ n ≤ Nat.pow 2 63 then some (-n)
  else none

/-- The float that is written. If it is too large, the number of digits that are left of it where
this is known: the exponent is too large at its first digit that no longer fits 31 bits. -/
def float (x : Numeral) : Except Nat Float :=
  let (n, power) := x.significand
  let (negative, exponentDigits) := x.exponent.getD (false, [])
  match gather (Nat.pow 2 31) 0 exponentDigits with
  | (_, _ :: unread) =>
    -- Whatever the significand is, such a power makes it vanish or is too large for it.
    if negative || n == 0 then .ok 0 else .error unread.length
  | (exponent, []) =>
    match scaled n (if negative then power - exponent else power + exponent) with
    | some y => .ok y
    | none => .error 0

def value (x : Numeral) : Except Nat Found :=
  match x.integer? with
  | some n => .ok (.int n)
  | none => x.float.map fun y => .float (if x.negative then -y else y)

end Numeral

def number (s : List Char) : Scan Found :=
  match numeral s with
  | .error e => .error e
  | .ok (x, rest) =>
    match x.value with
    | .ok found => .ok (found, rest)
    | .error unread => .error ⟨.hugeNumber, Text.byteCount rest + unread⟩

end BenchJob.Json
