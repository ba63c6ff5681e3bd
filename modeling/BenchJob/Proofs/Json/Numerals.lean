import BenchJob.Proofs.Json.Grammar

/-!
# Numerals and the grammar

A reader of a number takes as many characters as may belong to it, where the grammar may stop
earlier. So what is read is always a number of the grammar, and a number of the grammar is read if
nothing that continues a number stands behind it. Between the parts of a number, too, nothing of the
part in front may follow: the head of one part is none that continues another.

## Main statements

- `number_of_numeral`: what is read is a number of the grammar.
- `numeral_of_number`: a number of the grammar is read where it ends.
-/

namespace BenchJob.Json

open Grammar

/-! ## Digits -/

theorem digit_of_isDigit {c : Char} (h : c.isDigit = true) : Digit c (c.toNat - '0'.toNat) := by
  have all : ∀ k < 10, decimalDigits[k]? = some (Char.ofNat (48 + k)) := by decide
  have range : 48 ≤ c.toNat ∧ c.toNat ≤ 57 := by
    simpa [Char.isDigit, UInt32.le_iff_toNat_le] using h
  have found := all (c.toNat - 48) (by omega)
  rwa [Nat.add_sub_cancel' range.1, Char.ofNat_toNat] at found

theorem isDigit_of_digit {c : Char} {d : Nat} (h : Digit c d) :
    c.isDigit = true ∧ c.toNat - '0'.toNat = d := by
  have all : ∀ d < 10, decimalDigits[d]?.map (fun c => (c.isDigit, c.toNat - '0'.toNat)) =
      some (true, d) := by
    decide
  have value := all d (List.getElem?_eq_some_iff.1 h).1
  rw [h, Option.map_some] at value
  exact Prod.mk.inj (Option.some.inj value)

/-- Digits of the grammar are characters that are digits, with the values of these. -/
theorem digits_iff {s rest : List Char} {ds : List Nat} :
    Digits s ds rest ↔ ∃ c cs, s = c :: cs ++ rest ∧ (∀ d ∈ c :: cs, d.isDigit = true) ∧
      ds = (c :: cs).map fun d => d.toNat - '0'.toNat := by
  constructor
  · intro h
    induction h with
    | @last c d digit rest =>
      obtain ⟨isDigit, value⟩ := isDigit_of_digit digit
      exact ⟨c, [], rfl, by simp [isDigit], by rw [← value]; rfl⟩
    | @more c d ds s rest digit behind ih =>
      obtain ⟨isDigit, value⟩ := isDigit_of_digit digit
      obtain ⟨c', cs, rfl, all, rfl⟩ := ih
      refine ⟨c, c' :: cs, rfl, ?_, by rw [← value]; rfl⟩
      intro e mem
      rcases List.mem_cons.1 mem with rfl | later
      · exact isDigit
      · exact all e later
  · rintro ⟨c, cs, rfl, all, rfl⟩
    induction cs generalizing c with
    | nil => exact .last (digit_of_isDigit (all c List.mem_cons_self)) rest
    | cons d cs ih =>
      exact .more (digit_of_isDigit (all c List.mem_cons_self))
        (ih d fun e mem => all e (List.mem_cons_of_mem c mem))

theorem startsWithDigit_of_digits {s rest : List Char} {ds : List Nat} (h : Digits s ds rest) :
    startsWithDigit s = true := by
  obtain ⟨c, cs, rfl, all, -⟩ := digits_iff.1 h
  exact all c List.mem_cons_self

theorem digits_of_startsWithDigit {s : List Char} (h : startsWithDigit s = true) :
    Digits s (digits s).1 (digits s).2 := by
  cases s with
  | nil => cases h
  | cons c s =>
    have digit : c.isDigit = true := h
    refine digits_iff.2 ⟨c, s.takeWhile Char.isDigit, ?_, ?_, ?_⟩
    · rw [digits, List.dropWhile_cons_of_pos digit, List.cons_append,
        List.takeWhile_append_dropWhile]
    · intro d mem
      rcases List.mem_cons.1 mem with rfl | later
      · exact digit
      · exact List.all_eq_true.1 List.all_takeWhile d later
    · rw [digits, List.takeWhile_cons_of_pos digit]

theorem digits_of_digits {s rest : List Char} {ds : List Nat} (h : Digits s ds rest)
    (next : startsWithDigit rest = false) : digits s = (ds, rest) := by
  obtain ⟨c, cs, rfl, all, rfl⟩ := digits_iff.1 h
  exact digits_append all next

/-! ## Parts of a number -/

theorem eq_zero_iff_of_digit {c : Char} {d : Nat} (h : Digit c d) : c = '0' ↔ d = 0 := by
  constructor
  · rintro rfl
    exact (isDigit_of_digit h).2.symm
  · rintro rfl
    exact (Option.some.inj h).symm

theorem whole_of_wholePart {s rest : List Char} {whole : List Nat}
    (h : wholePart s = .ok (whole, rest)) : Whole s whole rest := by
  unfold wholePart at h
  split at h
  · cases h
  · split at h
    · cases h
    · cases h
      exact .zero _
  · rename_i c s nonzero
    split at h
    · rename_i digit
      have written := digits_of_startsWithDigit (s := c :: s) digit
      rw [Except.ok.inj h] at written
      cases written with
      | last value => exact .digits (mt (eq_zero_iff_of_digit value).2 nonzero) (.last value _)
      | more value behind =>
        exact .digits (mt (eq_zero_iff_of_digit value).2 nonzero) (.more value behind)
    · cases h

theorem wholePart_of_whole {s rest : List Char} {whole : List Nat} (h : Whole s whole rest)
    (next : startsWithDigit rest = false) : wholePart s = .ok (whole, rest) := by
  cases h with
  | zero => simp [wholePart, next]
  | @digits d ds s rest nonzero written =>
    have read := digits_of_digits written next
    obtain ⟨c, s', rfl, digit⟩ : ∃ c s', s = c :: s' ∧ Digit c d := by
      cases written with
      | last digit => exact ⟨_, _, rfl, digit⟩
      | more digit => exact ⟨_, _, rfl, digit⟩
    have other : c ≠ '0' := mt (eq_zero_iff_of_digit digit).1 nonzero
    have isDigit := (isDigit_of_digit digit).1
    unfold wholePart
    split <;> simp_all

theorem fraction_of_fractionPart {s rest : List Char} {fraction : Option (List Nat)}
    (h : fractionPart s = .ok (fraction, rest)) : Fraction s fraction rest := by
  unfold fractionPart at h
  repeat' split at h
  all_goals cases h
  · exact .some (digits_of_startsWithDigit ‹_›)
  · exact .none _

theorem fractionPart_of_fraction {s rest : List Char} {fraction : Option (List Nat)}
    (h : Fraction s fraction rest) (next : startsWithDigit rest = false)
    (noPoint : rest.head? ≠ some '.') : fractionPart s = .ok (fraction, rest) := by
  cases h with
  | none =>
    unfold fractionPart
    split
    · exact absurd rfl noPoint
    · rfl
  | some written =>
    simp [fractionPart, startsWithDigit_of_digits written, digits_of_digits written next]

theorem sign_exponentSign (s : List Char) : Sign s (exponentSign s).1 (exponentSign s).2 := by
  unfold exponentSign
  split
  · exact .plus _
  · exact .minus _
  · exact .none _

theorem exponentSign_of_sign {s s' : List Char} {negative : Bool} (h : Sign s negative s')
    (digit : startsWithDigit s' = true) : exponentSign s = (negative, s') := by
  cases h with
  | plus => rfl
  | minus => rfl
  | none =>
    unfold exponentSign
    split
    · cases digit
    · cases digit
    · rfl

theorem exponent_of_exponentPart {s rest : List Char} {exponent : Option (Bool × List Nat)}
    (h : exponentPart s = .ok (exponent, rest)) : Exponent s exponent rest := by
  unfold exponentPart at h
  repeat' split at h
  all_goals cases h
  · exact .none _
  · rename_i c s letter _ negative unsigned sign digit
    have signed := sign_exponentSign s
    rw [sign] at signed
    exact .some (by simpa using letter) signed (digits_of_startsWithDigit digit)
  · exact .none _

theorem exponentPart_of_exponent {s rest : List Char} {exponent : Option (Bool × List Nat)}
    (h : Exponent s exponent rest) (ends : EndsNumber rest) :
    exponentPart s = .ok (exponent, rest) := by
  cases h with
  | none => exact ends.exponentPart
  | some letter sign written =>
    have digit := startsWithDigit_of_digits written
    have read := digits_of_digits written ends.startsWithDigit
    simp_all [exponentPart, exponentSign_of_sign sign digit]

/-! ## Numbers -/

/-- What is read as a number is a number of the grammar. -/
theorem number_of_numeral {s rest : List Char} {x : Numeral} (h : numeral s = .ok (x, rest)) :
    Number s x rest := by
  unfold numeral at h
  repeat' split at h
  all_goals simp only [reduceCtorEq, Except.ok.injEq, Prod.mk.injEq] at h
  rename_i negative unsigned sign _ whole _ hw _ fraction _ hf _ exponent _ he
  obtain ⟨rfl, rfl⟩ := h
  have integer := whole_of_wholePart hw
  have places := fraction_of_fractionPart hf
  have power := exponent_of_exponentPart he
  split at sign <;> cases sign
  · exact .minus integer places power
  · exact .mk integer places power

/-- Behind an integer and behind a fraction, no digit goes on, and behind a fraction no point. -/
theorem exponent_head {s rest : List Char} {exponent : Option (Bool × List Nat)}
    (h : Exponent s exponent rest) (ends : EndsNumber rest) :
    startsWithDigit s = false ∧ s.head? ≠ some '.' := by
  cases h with
  | none =>
    refine ⟨ends.startsWithDigit, ?_⟩
    intro point
    exact (ends '.' point).2.1 rfl
  | some letter =>
    simp only [List.mem_cons, List.not_mem_nil, or_false] at letter
    rcases letter with rfl | rfl <;> simp [startsWithDigit]

theorem fraction_head {s rest : List Char} {fraction : Option (List Nat)}
    (h : Fraction s fraction rest) (next : startsWithDigit rest = false) :
    startsWithDigit s = false := by
  cases h with
  | none => exact next
  | some => rfl

theorem whole_head {s rest : List Char} {whole : List Nat} (h : Whole s whole rest) :
    ∃ c s', s = c :: s' ∧ c.isDigit = true := by
  cases h with
  | zero => exact ⟨_, _, rfl, rfl⟩
  | digits nonzero written =>
    obtain ⟨c, cs, rfl, all, -⟩ := digits_iff.1 written
    exact ⟨c, _, rfl, all c List.mem_cons_self⟩

/-- A number of the grammar is read where nothing continues it. -/
theorem numeral_of_number {s rest : List Char} {x : Numeral} (h : Number s x rest)
    (ends : EndsNumber rest) : numeral s = .ok (x, rest) := by
  cases h with
  | minus integer places power =>
    obtain ⟨noDigit, noPoint⟩ := exponent_head power ends
    have whole := wholePart_of_whole integer (fraction_head places noDigit)
    have fraction := fractionPart_of_fraction places noDigit noPoint
    simp [numeral, whole, fraction, exponentPart_of_exponent power ends]
  | mk integer places power =>
    obtain ⟨noDigit, noPoint⟩ := exponent_head power ends
    have whole := wholePart_of_whole integer (fraction_head places noDigit)
    have fraction := fractionPart_of_fraction places noDigit noPoint
    have exponent := exponentPart_of_exponent power ends
    obtain ⟨c, s', rfl, digit⟩ := whole_head integer
    have unsigned : c ≠ '-' := by
      rintro rfl
      cases digit
    unfold numeral
    split
    rename_i negative digits sign
    obtain ⟨rfl, rfl⟩ : negative = false ∧ digits = c :: s' := by
      split at sign <;> simp_all
    simp [whole, fraction, exponent]

end BenchJob.Json
