import BenchJob.Json.Printer
import BenchJob.Json.Scan.Text

/-!
# Strings read back

A printed string holds no line break and no quote but the ones around it, and a reader that knows
every escape of the grammar makes the string of it again: the printer uses the short escapes where
they exist, an escape by number for the other control characters, and the character itself
otherwise.

## Main statements

- `charText_cases`: the three ways in which a character is printed.
- `newline_notMem_stringChars`: a printed string stands on one line.
- `text_stringChars`: a printed string is read as the string.
-/

namespace BenchJob.Json

/-! ## Characters -/

/-- A character is printed as a short escape, as an escape by number, or as itself. -/
theorem charText_cases (c : Char) :
    (∃ d, shortEscape? d = some c ∧ charText c = ['\\', d]) ∨
    (c.toNat < 0x20 ∧
      charText c = ['\\', 'u', '0', '0', hexDigit (c.toNat / 16), hexDigit (c.toNat % 16)]) ∨
    (0x20 ≤ c.toNat ∧ c ≠ '"' ∧ c ≠ '\\' ∧ charText c = [c]) := by
  unfold charText
  split
  · exact .inl ⟨'"', by simp_all [shortEscape?], rfl⟩
  split
  · exact .inl ⟨'\\', by simp_all [shortEscape?], rfl⟩
  split
  · exact .inl ⟨'b', by simp_all [shortEscape?], rfl⟩
  split
  · exact .inl ⟨'t', by simp_all [shortEscape?], rfl⟩
  split
  · exact .inl ⟨'n', by simp_all [shortEscape?], rfl⟩
  split
  · exact .inl ⟨'f', by simp_all [shortEscape?], rfl⟩
  split
  · exact .inl ⟨'r', by simp_all [shortEscape?], rfl⟩
  split
  · exact .inr (.inl ⟨‹_›, rfl⟩)
  · exact .inr (.inr ⟨Nat.le_of_not_lt ‹_›, ‹_›, ‹_›, rfl⟩)

theorem newline_notMem_charText (c : Char) : '\n' ∉ charText c := by
  obtain ⟨d, short, printed⟩ | ⟨low, printed⟩ | ⟨high, -, -, printed⟩ := charText_cases c
  · have other : d ≠ '\n' := by
      rintro rfl
      simp [shortEscape?] at short
    simp [printed, other.symm]
  · have digit : ∀ n, '\n' ≠ hexDigit n := fun n => (Nat.digitChar_ne '\n' (by decide)).symm
    simp [printed, digit]
  · have other : c ≠ '\n' := by
      rintro rfl
      exact absurd high (by decide)
    simp [printed, other.symm]

theorem newline_notMem_stringChars (s : String) : '\n' ∉ stringChars s := by
  simp [stringChars, newline_notMem_charText]

/-! ## Reading -/

theorem hexValue?_hexDigit : ∀ n < 16, hexValue? (hexDigit n) = some n := by
  decide

/-- The unit of 16 bits that two digits behind two zeros write. -/
theorem hexUnit_hexDigits {n : Nat} (h : n < 256) (rest : List Char) :
    hexUnit ('0' :: '0' :: hexDigit (n / 16) :: hexDigit (n % 16) :: rest) = .ok (n, rest) := by
  have high := hexValue?_hexDigit (n / 16) (by omega)
  have low := hexValue?_hexDigit (n % 16) (by omega)
  have zero : hexValue? '0' = some 0 := rfl
  have number : hexNumber? 0 ['0', '0', hexDigit (n / 16), hexDigit (n % 16)] = some n := by
    simp only [hexNumber?, zero, high, low, Option.bind_some, Option.some.injEq]
    omega
  have one : ∀ c : Char, 1 ≤ (String.utf8EncodeChar c).length := fun c => by
    simpa using Nat.succ_le_of_lt c.utf8Size_pos
  have long : ¬ Text.byteCount
      ('0' :: '0' :: hexDigit (n / 16) :: hexDigit (n % 16) :: rest) < 4 := by
    simp only [Text.byteCount, Text.encodeChars, List.flatMap_cons, List.length_append]
    have := one '0'
    have := one (hexDigit (n / 16))
    have := one (hexDigit (n % 16))
    omega
  simp only [hexUnit, if_neg long, List.take_succ_cons, List.take_zero, number,
    List.drop_succ_cons, List.drop_zero]

/-- A printed character is read as the character. -/
theorem element_charText (c : Char) (rest : List Char) :
    element (charText c ++ rest) = .ok (some c, rest) := by
  obtain ⟨d, short, printed⟩ | ⟨low, printed⟩ | ⟨high, quote, backslash, printed⟩ :=
    charText_cases c
  · have escaped : escape (d :: rest) = .ok (c, rest) := by
      unfold escape
      split
      · simp_all
      · simp_all [shortEscape?]
      · simp_all
    simp [printed, element, escaped]
  · have unit := hexUnit_hexDigits (n := c.toNat) (by omega) rest
    have trail : isTrail c.toNat = false := by
      simp [isTrail]
      omega
    have lead : isLead c.toNat = false := by
      simp [isLead]
      omega
    have numbered : numbered ('0' :: '0' :: hexDigit (c.toNat / 16) ::
        hexDigit (c.toNat % 16) :: rest) = .ok (c, rest) := by
      simp [numbered, unit, trail, lead]
    simp [printed, element, escape, numbered]
  · simp only [printed, List.singleton_append]
    unfold element
    split
    · simp_all
    · simp_all
    · simp_all
    · simp_all

theorem textBody_of_end {s rest : List Char} (h : element s = .ok (none, rest)) :
    textBody s = .ok ([], rest) := by
  unfold textBody
  split <;> simp_all

theorem textBody_of_char {s rest cs rest' : List Char} {c : Char}
    (first : element s = .ok (some c, rest)) (more : textBody rest = .ok (cs, rest')) :
    textBody s = .ok (c :: cs, rest') := by
  unfold textBody
  split <;> simp_all

theorem textBody_charTexts (s rest : List Char) :
    textBody (s.flatMap charText ++ '"' :: rest) = .ok (s, rest) := by
  induction s with
  | nil => exact textBody_of_end rfl
  | cons c s ih =>
    rw [List.flatMap_cons, List.append_assoc]
    exact textBody_of_char (element_charText c _) ih

/-- Behind its opening quote, a printed string is read as the string. -/
theorem text_stringChars (s : String) (rest : List Char) :
    text (s.toList.flatMap charText ++ '"' :: rest) = .ok (s, rest) := by
  simp [text, textBody_charTexts]

end BenchJob.Json
