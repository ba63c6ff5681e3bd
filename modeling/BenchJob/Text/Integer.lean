/-!
# Integers as text

An integer is written in decimal without zeros in front, a negative one behind a minus sign. Readers
take more than is written: any number of digits, zeros in front of them, and a sign of either kind.

## Main definitions

- `Integer.chars`, `Integer.text`: an integer as it is written.
- `Integer.read?`: the integer that a text stands for.
-/

namespace BenchJob.Text.Integer

def chars (n : Int) : List Char :=
  if n < 0 then '-' :: Nat.toDigits 10 n.natAbs else Nat.toDigits 10 n.natAbs

def text (n : Int) : String := String.ofList (chars n)

def digit? (c : Char) : Option Nat := if c.isDigit then some (c.toNat - '0'.toNat) else none

/-- The number that digits write behind the digits already read. -/
def digitsFrom? (n : Nat) : List Char → Option Nat
  | [] => some n
  | c :: rest => (digit? c).bind fun d => digitsFrom? (10 * n + d) rest

def natural? : List Char → Option Nat
  | [] => none
  | c :: rest => digitsFrom? 0 (c :: rest)

/-- The integer that digits write, behind a sign or none. -/
def read? : List Char → Option Int
  | '-' :: digits => (natural? digits).map fun n : Nat => -(n : Int)
  | '+' :: digits => (natural? digits).map fun n : Nat => (n : Int)
  | digits => (natural? digits).map fun n : Nat => (n : Int)

end BenchJob.Text.Integer
