/-!
# The shortest decimal of a binary number

A finite binary64 number is `m * 2 ^ q`. The real numbers that round to it form an interval around
it, whose ends lie halfway to its neighbours and belong to it exactly if `m` is even. The shortest
decimal is the point of that interval on the coarsest grid of powers of ten that has one, and of
several such points the nearest to the number; of two equally near ones, the even one.

All comparisons are made between natural numbers: both sides are brought to a common denominator.

## Main definitions

- `Magnitude`, `Decimal`: the numbers `m * 2 ^ q` and `d * 10 ^ k`.
- `Magnitude.ofFloat`: the absolute value of a float.
- `Magnitude.rounds`: does a decimal round to the number?
- `Magnitude.shortest`: its shortest decimal.
-/

namespace BenchJob

/-- The number `mantissa * 2 ^ exponent`. -/
structure Magnitude where
  mantissa : Nat
  exponent : Int
  deriving Repr, DecidableEq

/-- The absolute value of a finite float: its mantissa has 53 bits, or fewer where the exponent is
the least. -/
def Magnitude.ofFloat (x : Float) : Magnitude :=
  let bits := x.toBits.toNat
  let biased : Nat := bits / Nat.pow 2 52 % Nat.pow 2 11
  let fraction : Nat := bits % Nat.pow 2 52
  if biased = 0 then ⟨fraction, -1074⟩ else ⟨Nat.pow 2 52 + fraction, biased - 1075⟩

/-- The decimal `digits * 10 ^ exponent`. -/
structure Decimal where
  digits : Nat
  exponent : Int
  deriving Repr, DecidableEq

namespace Magnitude

/-- What a unit of the grid of `10 ^ k` amounts to in the common denominator with quarters of the
number's last place. -/
def gridUnit (x : Magnitude) (k : Int) : Nat :=
  Nat.pow 10 k.toNat * Nat.pow 2 (2 - x.exponent).toNat

/-- What a quarter of the number's last place amounts to in the same denominator. -/
def quarter (x : Magnitude) (k : Int) : Nat :=
  Nat.pow 2 (x.exponent - 2).toNat * Nat.pow 10 (-k).toNat

/-- The lower end of the interval, in quarters of the last place. The neighbour below is only half
as far where the number is a power of two and not among the least. -/
def low (x : Magnitude) : Nat :=
  if x.mantissa = Nat.pow 2 52 ∧ -1074 < x.exponent then 4 * x.mantissa - 1
  else 4 * x.mantissa - 2

def high (x : Magnitude) : Nat := 4 * x.mantissa + 2

def rounds (x : Magnitude) (k : Int) (d : Nat) : Bool :=
  let point := d * x.gridUnit k
  let low := x.low * x.quarter k
  let high := x.high * x.quarter k
  -- Ties go to an even mantissa, so the ends of its interval belong to it.
  if x.mantissa % 2 = 0 then low ≤ point && point ≤ high else low < point && point < high

/-- The point on the grid of `10 ^ k` that rounds to the number and is nearest to it, if one
does. -/
def onGrid (x : Magnitude) (k : Int) : Option Nat :=
  let number := 4 * x.mantissa * x.quarter k
  let below := number / x.gridUnit k
  let above := below + 1
  match x.rounds k below, x.rounds k above with
  | false, false => none
  | true, false => some below
  | false, true => some above
  | true, true =>
    let down := number - below * x.gridUnit k
    let up := above * x.gridUnit k - number
    if down < up then some below
    else if up < down then some above
    else some (if below % 2 = 0 then below else above)

/-- The decimal on the first grid that has one, from the grid of `10 ^ k` downwards. -/
def search (x : Magnitude) : Nat → Int → Decimal
  | 0, k => ⟨0, k⟩
  | steps + 1, k =>
    match x.onGrid k with
    | some d => ⟨d, k⟩
    | none => x.search steps (k - 1)

/-- The shortest decimal of a positive number. The grids go from one on which only zero is below
the largest finite number to one that holds every number's 17 digits. -/
def shortest (x : Magnitude) : Decimal := x.search 660 310

end Magnitude

end BenchJob
