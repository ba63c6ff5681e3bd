import BenchJob.Decimal.Shortest

/-!
# Decimals as text

A number is written with its shortest digits. Between `10 ^ -5` and `10 ^ 16`, and for zero, the
digits stand in their places with at least one behind the point; elsewhere one digit stands before
the point and an exponent with its sign follows.

## Main definitions

- `positional`, `scientific`: the two ways of writing digits and a power of ten.
- `text`: the text of a finite float.
-/

namespace BenchJob.Decimal

/-- Digits with the point behind the first `places` of them, where `places` may lie outside. -/
def positional (digits : List Char) (places : Int) : List Char :=
  if places ≤ 0 then
    '0' :: '.' :: List.replicate (-places).toNat '0' ++ digits
  else if digits.length ≤ places.toNat then
    digits ++ List.replicate (places.toNat - digits.length) '0' ++ ['.', '0']
  else digits.take places.toNat ++ '.' :: digits.drop places.toNat

def scientific (digits : List Char) (exponent : Int) : List Char :=
  digits.take 1 ++ (if digits.length ≤ 1 then [] else '.' :: digits.drop 1) ++
    'e' :: (if exponent < 0 then '-' else '+') :: Nat.toDigits 10 exponent.natAbs

/-- The characters of a decimal: positional from `10 ^ -5` to just below `10 ^ 16`. -/
def chars (d : Decimal) : List Char :=
  let digits := Nat.toDigits 10 d.digits
  let places := digits.length + d.exponent
  if -5 < places ∧ places ≤ 16 then positional digits places else scientific digits (places - 1)

def isNegative (x : Float) : Bool := Nat.pow 2 63 ≤ x.toBits.toNat

def text (x : Float) : String :=
  let magnitude := Magnitude.ofFloat x
  let unsigned :=
    if magnitude.mantissa = 0 then positional ['0'] 1 else chars magnitude.shortest
  String.ofList (if isNegative x then '-' :: unsigned else unsigned)

end BenchJob.Decimal
