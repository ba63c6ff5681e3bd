import Mathlib.Data.Nat.Digits.Defs
import BenchJob.Text.Integer

/-!
# Integers read back

A text writes an integer if it consists of decimal digits, with a sign in front of them or none. The
digits stand for their value in positional notation, and zeros in front of them change nothing.
Reading accepts exactly these texts, and what it makes of them is the integer that they write; the
text of an integer is one of them.

## Main definitions

- `Integer.IsNumber`, `Integer.value`: decimal digits, and their value.
- `Integer.Writes`: a text writes an integer.

## Main statements

- `Integer.read?_eq_some_iff`: reading is exact.
- `Integer.writes_chars`, `Integer.chars_injective`: the text of an integer writes it and no other.
-/

namespace BenchJob.Text.Integer

/-! ## Meaning -/

def IsNumber (s : List Char) : Prop := s ≠ [] ∧ ∀ c ∈ s, c.isDigit = true

/-- The value of decimal digits in positional notation: the last one counts once, and each one in
front of another ten times as much. -/
def value (digits : List Char) : Nat :=
  Nat.ofDigits 10 (digits.reverse.map fun c => c.toNat - '0'.toNat)

/-- The text writes the integer: digits, behind a sign or none. -/
inductive Writes : List Char → Int → Prop where
  | unsigned {digits : List Char} (h : IsNumber digits) : Writes digits (value digits)
  | plus {digits : List Char} (h : IsNumber digits) : Writes ('+' :: digits) (value digits)
  | minus {digits : List Char} (h : IsNumber digits) : Writes ('-' :: digits) (-(value digits : Int))

theorem ofDigitChars_eq_value (digits : List Char) : Nat.ofDigitChars 10 digits 0 = value digits := by
  rw [value, Nat.ofDigits_eq_foldr, List.map_reverse, List.foldr_reverse, List.foldl_map,
    Nat.ofDigitChars_eq_foldl]
  simp only [Nat.cast_id, Nat.add_comm]

/-! ## Reading -/

theorem digit?_eq_some_iff {c : Char} {d : Nat} :
    digit? c = some d ↔ c.isDigit = true ∧ d = c.toNat - '0'.toNat := by
  unfold digit?
  split
  · rename_i digit
    rw [Option.some_inj, eq_comm, and_iff_right digit]
  · rename_i other
    exact iff_of_false (by simp) fun h => other h.1

theorem digitsFrom?_eq_some_iff {s : List Char} {n m : Nat} :
    digitsFrom? n s = some m ↔ (∀ c ∈ s, c.isDigit = true) ∧ m = Nat.ofDigitChars 10 s n := by
  induction s generalizing n with
  | nil =>
    rw [digitsFrom?, Option.some_inj, eq_comm, Nat.ofDigitChars_nil]
    exact (and_iff_right (by simp)).symm
  | cons c rest ih =>
    rw [digitsFrom?, Option.bind_eq_some_iff, List.forall_mem_cons]
    constructor
    · rintro ⟨d, read, behind⟩
      obtain ⟨digit, rfl⟩ := digit?_eq_some_iff.1 read
      obtain ⟨others, written⟩ := ih.1 behind
      exact ⟨⟨digit, others⟩, written⟩
    · rintro ⟨⟨digit, others⟩, written⟩
      exact ⟨_, digit?_eq_some_iff.2 ⟨digit, rfl⟩, ih.2 ⟨others, written⟩⟩

theorem natural?_eq_some_iff {s : List Char} {n : Nat} :
    natural? s = some n ↔ IsNumber s ∧ n = value s := by
  cases s with
  | nil => simp [natural?, IsNumber]
  | cons c rest => simp [natural?, digitsFrom?_eq_some_iff, ofDigitChars_eq_value, IsNumber]

/-- A number starts with no sign. -/
theorem IsNumber.head_ne {c : Char} {rest : List Char} (h : IsNumber (c :: rest)) :
    c ≠ '-' ∧ c ≠ '+' := by
  have digit : c.isDigit = true := h.2 c List.mem_cons_self
  constructor <;> rintro rfl <;> cases digit

/-- What is read is the integer that the text writes, and whatever writes an integer is read. -/
theorem read?_eq_some_iff {s : List Char} {n : Int} : read? s = some n ↔ Writes s n := by
  constructor
  · intro h
    unfold read? at h
    split at h
    all_goals
      obtain ⟨k, read, rfl⟩ := Option.map_eq_some_iff.1 h
      obtain ⟨number, rfl⟩ := natural?_eq_some_iff.1 read
    · exact .minus number
    · exact .plus number
    · exact .unsigned number
  · intro h
    cases h with
    | minus number => simp [read?, natural?_eq_some_iff.2 ⟨number, rfl⟩]
    | plus number => simp [read?, natural?_eq_some_iff.2 ⟨number, rfl⟩]
    | unsigned number =>
      unfold read?
      split
      · exact absurd rfl number.head_ne.1
      · exact absurd rfl number.head_ne.2
      · rw [natural?_eq_some_iff.2 ⟨number, rfl⟩, Option.map_some]

/-- A text writes at most one integer. -/
theorem Writes.unique {s : List Char} {n m : Int} (h : Writes s n) (h' : Writes s m) : n = m :=
  Option.some.inj ((read?_eq_some_iff.2 h).symm.trans (read?_eq_some_iff.2 h'))

/-! ## Writing -/

theorem isNumber_toDigits (n : Nat) : IsNumber (Nat.toDigits 10 n) :=
  ⟨Nat.toDigits_ne_nil, fun _ => Nat.isDigit_of_mem_toDigits (by decide) (by decide)⟩

@[simp] theorem value_toDigits (n : Nat) : value (Nat.toDigits 10 n) = n := by
  rw [← ofDigitChars_eq_value, Nat.ofDigitChars_ten_toDigits]

/-- The characters of an integer write it. -/
theorem writes_chars (n : Int) : Writes (chars n) n := by
  have number := isNumber_toDigits n.natAbs
  unfold chars
  split
  · have written := Writes.minus number
    rw [value_toDigits] at written
    rwa [show -(n.natAbs : Int) = n by omega] at written
  · have written := Writes.unsigned number
    rw [value_toDigits] at written
    rwa [show (n.natAbs : Int) = n by omega] at written

/-- Different integers have different characters. -/
theorem chars_injective {n m : Int} (h : chars n = chars m) : n = m :=
  (writes_chars n).unique (h ▸ writes_chars m)

/-- A text that writes an integer consists of digits and signs. -/
theorem Writes.mem_cases {s : List Char} {n : Int} (h : Writes s n) :
    ∀ c ∈ s, c.isDigit = true ∨ c = '+' ∨ c = '-' := by
  intro c mem
  cases h with
  | unsigned number => exact .inl (number.2 c mem)
  | plus number =>
    rcases List.mem_cons.1 mem with sign | digit
    · exact .inr (.inl sign)
    · exact .inl (number.2 c digit)
  | minus number =>
    rcases List.mem_cons.1 mem with sign | digit
    · exact .inr (.inr sign)
    · exact .inl (number.2 c digit)

/-- An integer is written with digits and signs only. -/
theorem notMem_chars {c : Char} (noDigit : c.isDigit = false) (plus : c ≠ '+') (minus : c ≠ '-')
    (n : Int) : c ∉ chars n := by
  intro mem
  rcases (writes_chars n).mem_cases c mem with digit | sign | sign
  · simp [noDigit] at digit
  · exact plus sign
  · exact minus sign

end BenchJob.Text.Integer
