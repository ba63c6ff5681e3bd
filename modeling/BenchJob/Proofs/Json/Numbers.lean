import BenchJob.Json.Scan.Numeral
import BenchJob.Text.Integer

/-!
# Numbers in JSON text

A number in JSON text stands for a sum of powers of ten, of whatever size. A reader of a number takes
all characters that may belong to it, so a number is read where it ends only if none of the
characters that continue one follows it. The digits of a natural number stand for it.

## Main definitions

- `ofDigits`: the natural number of decimal digits.
- `Numeral.exact`: the number that a numeral stands for, whatever its size.
- `EndsNumber`: a text goes on with nothing that continues a number.

## Main statements

- `numeral_length`: a numeral takes at least one character.
- `ofDigits_toDigits`: the digits of a number stand for it.
-/

namespace BenchJob.Json

/-! ## Meaning -/

def ofDigits (digits : List Nat) : Nat := digits.foldl (fun n d => 10 * n + d) 0

/-- The number that a numeral writes, without rounding and without a limit. -/
def Numeral.exact (x : Numeral) : Rat :=
  let fraction := x.fraction.getD []
  let (small, exponent) := x.exponent.getD (false, [])
  let coefficient : Int := ofDigits (x.whole ++ fraction)
  let power : Int := (if small then -(ofDigits exponent : Int) else ofDigits exponent)
  (if x.negative then -coefficient else coefficient : Int) * 10 ^ (power - fraction.length)

theorem Numeral.exact_integer (negative : Bool) (whole : List Nat) :
    (⟨negative, whole, none, none⟩ : Numeral).exact =
      ((if negative then -(ofDigits whole : Int) else ofDigits whole : Int) : Rat) := by
  simp [exact, ofDigits]

/-! ## What a numeral takes -/

theorem digits_length_le (s : List Char) : (digits s).2.length ≤ s.length :=
  (List.dropWhile_suffix Char.isDigit).length_le

theorem wholePart_length {s rest : List Char} {whole : List Nat}
    (h : wholePart s = .ok (whole, rest)) : rest.length < s.length := by
  unfold wholePart at h
  repeat' split at h
  all_goals simp only [reduceCtorEq, Except.ok.injEq, Prod.mk.injEq] at h
  · obtain ⟨-, rfl⟩ := h
    simp
  · rename_i c s _ digit
    have rest_eq : rest = s.dropWhile Char.isDigit := by
      simpa [digits, digit] using (congrArg Prod.snd h).symm
    rw [rest_eq]
    exact Nat.lt_succ_of_le (List.dropWhile_suffix Char.isDigit).length_le

theorem fractionPart_length {s rest : List Char} {fraction : Option (List Nat)}
    (h : fractionPart s = .ok (fraction, rest)) : rest.length ≤ s.length := by
  unfold fractionPart at h
  repeat' split at h
  all_goals simp only [reduceCtorEq, Except.ok.injEq, Prod.mk.injEq] at h
  all_goals obtain ⟨-, rfl⟩ := h
  · exact Nat.le_succ_of_le (digits_length_le _)
  · exact Nat.le_refl _

theorem exponentSign_length_le (s : List Char) : (exponentSign s).2.length ≤ s.length := by
  unfold exponentSign
  split <;> simp

theorem exponentPart_length {s rest : List Char} {exponent : Option (Bool × List Nat)}
    (h : exponentPart s = .ok (exponent, rest)) : rest.length ≤ s.length := by
  unfold exponentPart at h
  repeat' split at h
  all_goals simp only [reduceCtorEq, Except.ok.injEq, Prod.mk.injEq] at h
  all_goals obtain ⟨-, rfl⟩ := h
  · exact Nat.le_refl _
  · rename_i s _ _ _ unsigned sign _
    have behind := exponentSign_length_le s
    rw [sign] at behind
    exact Nat.le_succ_of_le (Nat.le_trans (digits_length_le unsigned) behind)
  · exact Nat.le_refl _

theorem numeral_length {s rest : List Char} {x : Numeral} (h : numeral s = .ok (x, rest)) :
    rest.length < s.length := by
  unfold numeral at h
  repeat' split at h
  all_goals simp only [reduceCtorEq, Except.ok.injEq, Prod.mk.injEq] at h
  rename_i negative unsigned sign _ whole _ hw _ fraction _ hf _ exponent _ he
  obtain ⟨-, rfl⟩ := h
  have behind : unsigned.length ≤ s.length := by
    split at sign <;> cases sign
    · simp
    · exact Nat.le_refl _
  have := wholePart_length hw
  have := fractionPart_length hf
  have := exponentPart_length he
  omega

/-! ## Where a number ends -/

/-- A text goes on with nothing that continues a number, or ends. -/
def EndsNumber (rest : List Char) : Prop :=
  ∀ c ∈ rest.head?, c.isDigit = false ∧ c ≠ '.' ∧ c ≠ 'e' ∧ c ≠ 'E'

theorem EndsNumber.startsWithDigit {rest : List Char} (h : EndsNumber rest) :
    startsWithDigit rest = false := by
  cases rest with
  | nil => rfl
  | cons c rest => exact (h c rfl).1

theorem EndsNumber.exponentPart {rest : List Char} (h : EndsNumber rest) :
    exponentPart rest = .ok (none, rest) := by
  cases rest with
  | nil => rfl
  | cons c rest =>
    obtain ⟨-, -, small, large⟩ := h c rfl
    simp [Json.exponentPart, small, large]

theorem digits_append {ds rest : List Char} (all : ∀ c ∈ ds, c.isDigit = true)
    (next : startsWithDigit rest = false) :
    digits (ds ++ rest) = (ds.map fun c => c.toNat - '0'.toNat, rest) := by
  have stop : rest.takeWhile Char.isDigit = [] ∧ rest.dropWhile Char.isDigit = rest := by
    cases rest with
    | nil => exact ⟨rfl, rfl⟩
    | cons c rest =>
      have other : c.isDigit = false := next
      simp [other]
  rw [digits, List.takeWhile_append_of_pos all, List.dropWhile_append_of_pos all, stop.1, stop.2,
    List.append_nil]

/-! ## Digits of a number -/

theorem toDigits_eq_cons (n : Nat) :
    ∃ c cs, Nat.toDigits 10 n = c :: cs ∧ c.isDigit = true := by
  obtain ⟨c, cs, written⟩ := List.exists_cons_of_ne_nil (Nat.toDigits_ne_nil (n := n) (b := 10))
  have mem : c ∈ Nat.toDigits 10 n := written ▸ List.mem_cons_self
  exact ⟨c, cs, written, Nat.isDigit_of_mem_toDigits (by decide) (by decide) mem⟩

/-- Only the digits of zero start with a zero. -/
theorem eq_zero_of_toDigits_eq_zero_cons {n : Nat} {ds : List Char}
    (h : Nat.toDigits 10 n = '0' :: ds) : n = 0 := by
  induction n using Nat.strongRecOn generalizing ds with
  | ind n ih =>
    rw [Nat.toDigits_eq_if (by decide)] at h
    split at h
    · simpa using (List.cons.inj h).1
    · rename_i large
      obtain ⟨d, more, first, -⟩ := toDigits_eq_cons (n / 10)
      rw [first, List.cons_append] at h
      have zero := ih (n / 10) (by omega) (first.trans (by rw [(List.cons.inj h).1]))
      omega

/-- The digits of a number stand for it. -/
theorem ofDigits_toDigits (n : Nat) :
    ofDigits ((Nat.toDigits 10 n).map fun c => c.toNat - '0'.toNat) = n := by
  have value := Nat.ofDigitChars_ten_toDigits (n := n)
  rwa [Nat.ofDigitChars_eq_foldl, ← List.foldl_map] at value

end BenchJob.Json
