import BenchJob.Proofs.Json.Grammar
import BenchJob.Proofs.Json.Strings
import BenchJob.Proofs.Text.Utf8

/-!
# Readers and the grammar

Each reader of a piece of JSON text answers with a meaning and a rest exactly if the grammar does.
A reader of blanks takes as many as there are, where the grammar may leave some of them; the two
agree where a token comes next, which is the case in front of every value.

## Main statements

- `text_eq_ok_iff`: a string is read exactly as the grammar has it.
- `nextItem_true_iff`, `nextItem_false_iff`: the next item of an array, and its end.
- `nextKey_some_iff`, `nextKey_none_iff`: the next key of an object, and its end.
- `texts_eq_ok_iff`: an array of strings is read exactly as the grammar has it.
-/

namespace BenchJob.Json

open Grammar

/-! ## Blanks -/

theorem isSpace_iff {c : Char} : isSpace c = true ↔ IsBlank c := by
  simp only [isSpace, IsBlank, Bool.or_eq_true, decide_eq_true_eq, List.mem_cons, List.not_mem_nil,
    or_false]
  grind

theorem isSpace_eq_false_iff {c : Char} : isSpace c = false ↔ ¬ IsBlank c := by
  rw [← isSpace_iff, Bool.not_eq_true]

theorem skip_of_head {c : Char} {rest : List Char} (h : isSpace c = false) :
    skip (c :: rest) = c :: rest := by
  simp [skip, h]

theorem blanks_skip (s : List Char) : Blanks s (skip s) := by
  induction s with
  | nil => exact .nil []
  | cons c s ih =>
    cases space : isSpace c with
    | true =>
      rw [skip, List.dropWhile_cons_of_pos space]
      exact .cons (isSpace_iff.1 space) ih
    | false =>
      rw [skip_of_head space]
      exact .nil _

theorem skip_of_blanks {s rest : List Char} (h : Blanks s rest) : skip s = skip rest := by
  induction h with
  | nil => rfl
  | cons blank more ih => rw [← ih, skip, List.dropWhile_cons_of_pos (isSpace_iff.2 blank), skip]

theorem not_isBlank_of_skip {s rest : List Char} {c : Char} (h : skip s = c :: rest) :
    ¬ IsBlank c := by
  have head := List.head?_dropWhile_not isSpace s
  rw [← skip, h] at head
  exact isSpace_eq_false_iff.1 (by simpa using head)

theorem skip_eq_cons_iff {s rest : List Char} {c : Char} :
    skip s = c :: rest ↔ Blanks s (c :: rest) ∧ ¬ IsBlank c := by
  constructor
  · intro h
    exact ⟨h ▸ blanks_skip s, not_isBlank_of_skip h⟩
  · rintro ⟨blanks, token⟩
    rw [skip_of_blanks blanks, skip_of_head (isSpace_eq_false_iff.2 token)]

theorem skip_eq_nil_iff {s : List Char} : skip s = [] ↔ Blanks s [] := by
  constructor
  · intro h
    exact h ▸ blanks_skip s
  · exact skip_of_blanks

/-! ## Strings -/

theorem hexValue?_eq_some_iff {c : Char} {n : Nat} : hexValue? c = some n ↔ HexDigit c n := by
  constructor
  · -- The digits of a range are the characters from its first one on.
    have decimal : ∀ k < 10, (decimalDigits ++ ['a', 'b', 'c', 'd', 'e', 'f'])[k]? =
        some (Char.ofNat (48 + k)) := by
      decide
    have small : ∀ k < 6, (decimalDigits ++ ['a', 'b', 'c', 'd', 'e', 'f'])[k + 10]? =
        some (Char.ofNat (97 + k)) := by
      decide
    have large : ∀ k < 6, (decimalDigits ++ ['A', 'B', 'C', 'D', 'E', 'F'])[k + 10]? =
        some (Char.ofNat (65 + k)) := by
      decide
    intro h
    unfold hexValue? at h
    simp only [Char.le_def, UInt32.le_iff_toNat_le] at h
    split at h
    · rename_i range
      have from48 : 48 ≤ c.toNat ∧ c.toNat ≤ 57 := range
      obtain rfl : c.toNat - 48 = n := Option.some.inj h
      refine .inl ((decimal _ (by omega)).trans ?_)
      rw [Nat.add_sub_cancel' from48.1, Char.ofNat_toNat]
    · split at h
      · rename_i range
        have from97 : 97 ≤ c.toNat ∧ c.toNat ≤ 102 := range
        obtain rfl : c.toNat - 97 + 10 = n := Option.some.inj h
        refine .inl ((small _ (by omega)).trans ?_)
        rw [Nat.add_sub_cancel' from97.1, Char.ofNat_toNat]
      · split at h
        · rename_i range
          have from65 : 65 ≤ c.toNat ∧ c.toNat ≤ 70 := range
          obtain rfl : c.toNat - 65 + 10 = n := Option.some.inj h
          refine .inr ((large _ (by omega)).trans ?_)
          rw [Nat.add_sub_cancel' from65.1, Char.ofNat_toNat]
        · cases h
  · have small : ∀ n < 16,
        (decimalDigits ++ ['a', 'b', 'c', 'd', 'e', 'f'])[n]?.bind hexValue? = some n := by
      decide
    have large : ∀ n < 16,
        (decimalDigits ++ ['A', 'B', 'C', 'D', 'E', 'F'])[n]?.bind hexValue? = some n := by
      decide
    rintro (h | h)
    · have value := small n (List.getElem?_eq_some_iff.1 h).1
      rwa [h, Option.bind_some] at value
    · have value := large n (List.getElem?_eq_some_iff.1 h).1
      rwa [h, Option.bind_some] at value

theorem utf8Size_of_hexDigit {c : Char} {n : Nat} (h : HexDigit c n) : c.utf8Size = 1 := by
  have small : ((decimalDigits ++ ['a', 'b', 'c', 'd', 'e', 'f']).all (·.utf8Size == 1)) = true :=
    rfl
  have large : ((decimalDigits ++ ['A', 'B', 'C', 'D', 'E', 'F']).all (·.utf8Size == 1)) = true :=
    rfl
  rcases h with h | h
  · exact eq_of_beq (List.all_eq_true.1 small c (List.mem_of_getElem? h))
  · exact eq_of_beq (List.all_eq_true.1 large c (List.mem_of_getElem? h))

theorem length_le_byteCount (s : List Char) : s.length ≤ Text.byteCount s := by
  induction s with
  | nil => exact Nat.le_refl _
  | cons c s ih =>
    have pos := c.utf8Size_pos
    simp only [Text.byteCount, Text.encodeChars, List.flatMap_cons, List.length_append,
      String.length_utf8EncodeChar, List.length_cons] at *
    omega

/-- Hexadecimal digits are one byte each. -/
theorem byteCount_of_hexNumber? {s : List Char} {k n : Nat} (h : hexNumber? k s = some n) :
    Text.byteCount s = s.length := by
  induction s generalizing k with
  | nil => rfl
  | cons c s ih =>
    obtain ⟨d, digit, behind⟩ := Option.bind_eq_some_iff.1 h
    have one := utf8Size_of_hexDigit (hexValue?_eq_some_iff.1 digit)
    have rest := ih behind
    simp only [Text.byteCount, Text.encodeChars, List.flatMap_cons, List.length_append,
      String.length_utf8EncodeChar, List.length_cons] at *
    omega

theorem hexNumber?_four_iff {a b c d : Char} {n : Nat} :
    hexNumber? 0 [a, b, c, d] = some n ↔ ∃ i j k l, HexDigit a i ∧ HexDigit b j ∧ HexDigit c k ∧
      HexDigit d l ∧ n = 16 * (16 * (16 * i + j) + k) + l := by
  simp only [hexNumber?, Option.bind_eq_some_iff, hexValue?_eq_some_iff, Option.some.injEq,
    Nat.mul_zero, Nat.zero_add]
  constructor
  · rintro ⟨i, hi, j, hj, k, hk, l, hl, rfl⟩
    exact ⟨i, j, k, l, hi, hj, hk, hl, rfl⟩
  · rintro ⟨i, j, k, l, hi, hj, hk, hl, rfl⟩
    exact ⟨i, hi, j, hj, k, hk, l, hl, rfl⟩

theorem hexUnit_eq_ok_iff {s rest : List Char} {n : Nat} :
    hexUnit s = .ok (n, rest) ↔ HexUnit s n rest := by
  constructor
  · intro h
    unfold hexUnit at h
    split at h
    · cases h
    · rename_i long
      split at h
      · rename_i m number
        cases h
        -- Less than four digits would be less than four bytes.
        have enough : 4 ≤ s.length := by
          have bytes := byteCount_of_hexNumber? number
          refine Nat.le_of_not_lt fun short => long ?_
          rw [List.take_of_length_le (Nat.le_of_lt short)] at bytes
          omega
        match s, enough with
        | a :: b :: c :: d :: rest, _ =>
          obtain ⟨i, j, k, l, hi, hj, hk, hl, rfl⟩ := hexNumber?_four_iff.1 number
          exact .mk hi hj hk hl rest
      · cases h
  · intro h
    cases h with
    | @mk a b c d i j k l hi hj hk hl rest =>
      have long : ¬ Text.byteCount (a :: b :: c :: d :: rest) < 4 := by
        have := length_le_byteCount (a :: b :: c :: d :: rest)
        simp only [List.length_cons] at this
        omega
      have number := hexNumber?_four_iff.2 ⟨i, j, k, l, hi, hj, hk, hl, rfl⟩
      rw [hexUnit, if_neg long]
      simp only [List.take_succ_cons, List.take_zero, number, List.drop_succ_cons, List.drop_zero]

theorem isLead_iff {n : Nat} : isLead n = true ↔ 0xD800 ≤ n ∧ n ≤ 0xDBFF := by
  simp only [isLead, Bool.and_eq_true, decide_eq_true_eq]
  omega

theorem isTrail_iff {n : Nat} : isTrail n = true ↔ 0xDC00 ≤ n ∧ n ≤ 0xDFFF := by
  simp only [isTrail, Bool.and_eq_true, decide_eq_true_eq]
  omega

theorem lt_of_hexDigit {c : Char} {n : Nat} (h : HexDigit c n) : n < 16 := by
  rcases h with h | h <;> exact (List.getElem?_eq_some_iff.1 h).1

theorem lt_of_hexUnit {s rest : List Char} {n : Nat} (h : HexUnit s n rest) : n < 0x10000 := by
  cases h with
  | mk first second third fourth =>
    have := lt_of_hexDigit first
    have := lt_of_hexDigit second
    have := lt_of_hexDigit third
    have := lt_of_hexDigit fourth
    omega

theorem trailUnit_eq_ok_iff {s rest : List Char} {n : Nat} :
    trailUnit s = .ok (n, rest) ↔
      ∃ s', s = '\\' :: 'u' :: s' ∧ HexUnit s' n rest ∧ 0xDC00 ≤ n ∧ n ≤ 0xDFFF := by
  constructor
  · intro h
    unfold trailUnit at h
    split at h
    · cases h
    · cases h
    · split at h
      · cases h
      · split at h
        · cases h
          exact ⟨_, rfl, hexUnit_eq_ok_iff.1 ‹_›, isTrail_iff.1 ‹_›⟩
        · cases h
    · cases h
    · cases h
  · rintro ⟨s', rfl, unit, range⟩
    simp [trailUnit, hexUnit_eq_ok_iff.2 unit, isTrail_iff.2 range]

theorem shortEscape?_eq_some_iff {letter c : Char} :
    shortEscape? letter = some c ↔ (letter, c) ∈ escapes := by
  constructor
  · intro h
    unfold shortEscape? at h
    split at h <;> cases h <;> simp [escapes]
  · intro h
    simp only [escapes, List.mem_cons, Prod.mk.injEq, List.not_mem_nil, or_false] at h
    rcases h with ⟨rfl, rfl⟩ | ⟨rfl, rfl⟩ | ⟨rfl, rfl⟩ | ⟨rfl, rfl⟩ | ⟨rfl, rfl⟩ | ⟨rfl, rfl⟩ |
      ⟨rfl, rfl⟩ | ⟨rfl, rfl⟩ <;> rfl

/-- Surrogates name the characters that need more than 16 bits. -/
theorem toNat_ofPair {lead trail : Nat} (high : 0xD800 ≤ lead ∧ lead ≤ 0xDBFF)
    (low : 0xDC00 ≤ trail ∧ trail ≤ 0xDFFF) :
    (ofPair lead trail).toNat = 0x10000 + (lead - 0xD800) * 0x400 + (trail - 0xDC00) := by
  have valid : (0x10000 + (lead - 0xD800) * 0x400 + (trail - 0xDC00)).isValidChar := by
    unfold Nat.isValidChar
    omega
  obtain ⟨c, code⟩ := Text.exists_char_of_valid valid
  rw [ofPair, ← code, Char.ofNat_toNat]

/-- No character is a surrogate. -/
theorem not_surrogate (c : Char) : isTrail c.toNat = false ∧ isLead c.toNat = false := by
  have valid : c.toNat.isValidChar := c.valid
  unfold Nat.isValidChar at valid
  rw [← Bool.not_eq_true, ← Bool.not_eq_true, isTrail_iff, isLead_iff]
  omega

theorem element_of_numbered {s rest : List Char} {c : Char} (h : numbered s = .ok (c, rest)) :
    Element ('\\' :: 'u' :: s) c rest := by
  unfold numbered at h
  split at h
  · cases h
  rename_i n behind unit
  split at h
  · cases h
  rename_i notTrail
  split at h
  · rename_i lead
    split at h
    · cases h
    · rename_i trail rest pair
      obtain ⟨rfl, rfl⟩ := Prod.mk.inj (Except.ok.inj h)
      obtain ⟨s', rfl, second, low⟩ := trailUnit_eq_ok_iff.1 pair
      have high := isLead_iff.1 lead
      exact .pair (hexUnit_eq_ok_iff.1 unit) second high low (toNat_ofPair high low)
  · rename_i notLead
    cases h
    have valid : n.isValidChar := by
      have := lt_of_hexUnit (hexUnit_eq_ok_iff.1 unit)
      rw [isTrail_iff] at notTrail
      rw [isLead_iff] at notLead
      unfold Nat.isValidChar
      omega
    obtain ⟨c, rfl⟩ := Text.exists_char_of_valid valid
    rw [Char.ofNat_toNat]
    exact .unit (hexUnit_eq_ok_iff.1 unit)

theorem numbered_of_unit {s rest : List Char} {c : Char} (h : HexUnit s c.toNat rest) :
    numbered s = .ok (c, rest) := by
  obtain ⟨notTrail, notLead⟩ := not_surrogate c
  simp [numbered, hexUnit_eq_ok_iff.2 h, notTrail, notLead]

theorem numbered_of_pair {s s' rest : List Char} {c : Char} {lead trail : Nat}
    (first : HexUnit s lead ('\\' :: 'u' :: s')) (second : HexUnit s' trail rest)
    (high : 0xD800 ≤ lead ∧ lead ≤ 0xDBFF) (low : 0xDC00 ≤ trail ∧ trail ≤ 0xDFFF)
    (code : c.toNat = 0x10000 + (lead - 0xD800) * 0x400 + (trail - 0xDC00)) :
    numbered s = .ok (c, rest) := by
  have same : ofPair lead trail = c := by rw [ofPair, ← code, Char.ofNat_toNat]
  have notTrail : isTrail lead = false := by
    rw [← Bool.not_eq_true, isTrail_iff]
    omega
  have read := trailUnit_eq_ok_iff.2 ⟨s', rfl, second, low⟩
  simp [numbered, hexUnit_eq_ok_iff.2 first, notTrail, isLead_iff.2 high, read, same]

/-- The next character of a string is read exactly as the grammar has it. -/
theorem element_some_iff {s rest : List Char} {c : Char} :
    element s = .ok (some c, rest) ↔ Element s c rest := by
  constructor
  · intro h
    unfold element at h
    split at h
    · cases h
    · cases h
    · split at h
      · cases h
      · rename_i d rest escaped
        cases h
        unfold escape at escaped
        split at escaped
        · cases escaped
        · exact element_of_numbered escaped
        · split at escaped
          · cases escaped
            exact .short (shortEscape?_eq_some_iff.1 ‹_›) _
          · cases escaped
    · rename_i d rest quote backslash
      split at h
      · cases h
      · cases h
        refine .plain (Nat.le_of_not_lt ‹_›) ?_ ?_ _
        · rintro rfl
          exact quote rfl
        · rintro rfl
          exact backslash rfl
  · intro h
    cases h with
    | plain printable quote backslash =>
      have high : ¬ c.toNat < 0x20 := Nat.not_lt.2 printable
      unfold element
      split <;> simp_all
    | @short letter c listed rest =>
      have escaped : escape (letter :: rest) = .ok (c, rest) := by
        have short := shortEscape?_eq_some_iff.2 listed
        unfold escape
        split
        · simp_all
        · simp_all [shortEscape?]
        · simp_all
      simp [element, escaped]
    | unit code => simp [element, escape, numbered_of_unit code]
    | pair first second high low code =>
      simp [element, escape, numbered_of_pair first second high low code]

theorem element_none_iff {s rest : List Char} :
    element s = .ok (none, rest) ↔ s = '"' :: rest := by
  constructor
  · intro h
    unfold element at h
    repeat' split at h
    all_goals cases h
    rfl
  · rintro rfl
    rfl

theorem textBody_eq_ok_iff {s cs rest : List Char} :
    textBody s = .ok (cs, rest) ↔ Body s cs rest := by
  constructor
  · intro h
    fun_induction textBody s generalizing cs rest with
    | case1 => cases h
    | case2 s r close =>
      cases h
      rw [element_none_iff.1 close]
      exact .close _
    | case3 => cases h
    | case4 s c r first ds r' behind ih =>
      cases h
      exact .more (element_some_iff.1 first) (ih behind)
  · intro h
    induction h with
    | close rest => exact textBody_of_end rfl
    | more first behind ih => exact textBody_of_char (element_some_iff.2 first) ih

theorem text_eq_ok_iff {s rest : List Char} {t : String} :
    text s = .ok (t, rest) ↔ Body s t.toList rest := by
  rw [← textBody_eq_ok_iff]
  unfold text
  split
  · rename_i failed
    simp [failed]
  · rename_i cs behind read
    simp only [read, Except.ok.injEq, Prod.mk.injEq]
    constructor
    · rintro ⟨rfl, rfl⟩
      exact ⟨String.toList_ofList.symm, rfl⟩
    · rintro ⟨rfl, rfl⟩
      exact ⟨String.ofList_toList, rfl⟩

theorem textValue_eq_ok_iff {s rest : List Char} {t : String} :
    textValue s = .ok (t, rest) ↔ ∃ a, Blanks s a ∧ Quoted a t rest := by
  unfold textValue
  constructor
  · intro h
    split at h
    · rename_i a quote
      exact ⟨_, quote ▸ blanks_skip s, .mk (text_eq_ok_iff.1 h)⟩
    · cases h
  · rintro ⟨a, blanks, ⟨body⟩⟩
    have quote := skip_eq_cons_iff.2 ⟨blanks, by simp [IsBlank]⟩
    simp [quote, text_eq_ok_iff.2 body]

/-! ## Literals -/

theorem literal_eq_ok_iff {word s rest : List Char} :
    literal word s = .ok ((), rest) ↔ s = word ++ rest := by
  constructor
  · intro h
    fun_induction literal word s with
    | case1 => cases h; rfl
    | case2 => cases h
    | case3 c word s ih => rw [ih h, List.cons_append]
    | case4 => cases h
  · rintro rfl
    induction word with
    | nil => simp [literal]
    | cons c word ih => simpa [literal] using ih

def Reading.ofText? : Option String → Reading
  | none => .null
  | some t => .str t

theorem optionalText_eq_ok_iff {s rest : List Char} {t : Option String} :
    optionalText s = .ok (t, rest) ↔ ∃ a, Blanks s a ∧ Value a (.ofText? t) rest := by
  unfold optionalText
  constructor
  · intro h
    split at h
    · rename_i a word
      split at h
      · cases h
      · rename_i behind read
        cases h
        obtain rfl := literal_eq_ok_iff.1 read
        exact ⟨_, word ▸ blanks_skip s, .null _⟩
    · split at h
      · cases h
      · rename_i read
        cases h
        obtain ⟨a, blanks, quoted⟩ := textValue_eq_ok_iff.1 read
        exact ⟨a, blanks, .str quoted⟩
  · rintro ⟨a, blanks, value⟩
    cases t with
    | none =>
      obtain rfl := value_null_iff.1 value
      have word := skip_eq_cons_iff.2 ⟨blanks, by simp [IsBlank]⟩
      simp [word, literal]
    | some t =>
      have quoted := value_str_iff.1 value
      have read := textValue_eq_ok_iff.2 ⟨a, blanks, quoted⟩
      cases quoted with
      | mk body =>
        have quote := skip_eq_cons_iff.2 ⟨blanks, by simp [IsBlank]⟩
        simp [quote, read]

/-! ## Arrays and objects -/

theorem not_isBlank_token {c : Char} (h : c ∈ ['"', ',', ':', '[', ']', '\x7b', '\x7d', 'n']) :
    ¬ IsBlank c := by
  simp only [List.mem_cons, List.not_mem_nil, or_false] at h
  rcases h with rfl | rfl | rfl | rfl | rfl | rfl | rfl | rfl <;> simp [IsBlank]

/-- Where a token comes next, blanks are skipped up to it. -/
theorem skip_of_token {s rest : List Char} {c : Char} (blanks : Blanks s (c :: rest))
    (h : c ∈ ['"', ',', ':', '[', ']', '\x7b', '\x7d', 'n']) : skip s = c :: rest :=
  skip_eq_cons_iff.2 ⟨blanks, not_isBlank_token h⟩

theorem blanks_of_skip {s rest : List Char} (h : skip s = rest) : Blanks s rest :=
  h ▸ blanks_skip s

theorem nextItem_false_iff {first : Bool} {s rest : List Char} :
    nextItem first s = .ok (false, rest) ↔ Blanks s (']' :: rest) := by
  constructor
  · intro h
    unfold nextItem at h
    repeat' split at h
    all_goals cases h
    exact blanks_of_skip ‹_›
  · intro blanks
    simp [nextItem, skip_of_token blanks]

/-- There is another item exactly if something else than a bracket stands where one may start. -/
theorem nextItem_true_iff {first : Bool} {s rest : List Char} :
    nextItem first s = .ok (true, rest) ↔
      Lead first s rest ∧ ∃ c rest', rest = c :: rest' ∧ ¬ IsBlank c ∧ c ≠ ']' := by
  constructor
  · intro h
    unfold nextItem at h
    split at h
    · cases h
    · cases h
    · rename_i c behind bracket next
      split at h
      · rename_i isFirst
        cases h
        subst isFirst
        exact ⟨.first (blanks_of_skip next), c, behind, rfl, not_isBlank_of_skip next, bracket⟩
      · rename_i notFirst
        obtain rfl : first = false := Bool.eq_false_iff.2 notFirst
        split at h
        · rename_i comma
          subst comma
          split at h
          · cases h
          · cases h
          · rename_i nonempty noBracket
            cases h
            cases item : skip behind with
            | nil => exact absurd item nonempty
            | cons d rest' =>
              refine ⟨.later (blanks_of_skip next) (blanks_of_skip item), d, rest', rfl,
                not_isBlank_of_skip item, ?_⟩
              rintro rfl
              exact noBracket rest' item
        · cases h
  · rintro ⟨lead, c, rest', rfl, token, bracket⟩
    cases lead with
    | first blanks =>
      simp [nextItem, skip_eq_cons_iff.2 ⟨blanks, token⟩]
    | later before behind =>
      simp [nextItem, skip_of_token before, skip_eq_cons_iff.2 ⟨behind, token⟩, bracket]

theorem closeArray_eq_ok_iff {s rest : List Char} :
    closeArray s = .ok ((), rest) ↔ Blanks s (']' :: rest) := by
  constructor
  · intro h
    unfold closeArray at h
    repeat' split at h
    all_goals cases h
    exact blanks_of_skip ‹_›
  · intro blanks
    simp [closeArray, skip_of_token blanks]

theorem colon_eq_ok_iff {s rest : List Char} :
    colon s = .ok ((), rest) ↔ Blanks s (':' :: rest) := by
  constructor
  · intro h
    unfold colon at h
    repeat' split at h
    all_goals cases h
    exact blanks_of_skip ‹_›
  · intro blanks
    simp [colon, skip_of_token blanks]

theorem key_eq_ok_iff {s rest : List Char} {name : Option String} :
    key s = .ok (name, rest) ↔ ∃ t, name = some t ∧ Quoted s t rest := by
  constructor
  · intro h
    unfold key at h
    repeat' split at h
    all_goals cases h
    exact ⟨_, rfl, .mk (text_eq_ok_iff.1 ‹_›)⟩
  · rintro ⟨t, rfl, ⟨body⟩⟩
    simp [key, text_eq_ok_iff.2 body]

theorem nextKey_none_iff {first : Bool} {s rest : List Char} :
    nextKey first s = .ok (none, rest) ↔ Blanks s ('\x7d' :: rest) := by
  have noKey : ∀ s, key s ≠ .ok (none, rest) := by
    intro s h
    obtain ⟨t, no, -⟩ := key_eq_ok_iff.1 h
    cases no
  constructor
  · intro h
    unfold nextKey at h
    repeat' split at h
    all_goals first | exact absurd h (noKey _) | cases h
    exact blanks_of_skip ‹_›
  · intro blanks
    simp [nextKey, skip_of_token blanks]

theorem nextKey_some_iff {first : Bool} {s rest : List Char} {name : String} :
    nextKey first s = .ok (some name, rest) ↔ ∃ a, Lead first s a ∧ Quoted a name rest := by
  constructor
  · intro h
    unfold nextKey at h
    split at h
    · cases h
    · cases h
    · rename_i c behind bracket next
      split at h
      · rename_i isFirst
        subst isFirst
        obtain ⟨t, same, quoted⟩ := key_eq_ok_iff.1 h
        cases same
        exact ⟨_, .first (blanks_of_skip next), quoted⟩
      · rename_i notFirst
        obtain rfl : first = false := Bool.eq_false_iff.2 notFirst
        split at h
        · rename_i comma
          subst comma
          split at h
          · cases h
          · cases h
          · obtain ⟨t, same, quoted⟩ := key_eq_ok_iff.1 h
            cases same
            exact ⟨_, .later (blanks_of_skip next) (blanks_skip _), quoted⟩
        · cases h
  · rintro ⟨a, lead, quoted⟩
    have read := key_eq_ok_iff.2 ⟨name, rfl, quoted⟩
    cases quoted with
    | mk body =>
      cases lead with
      | first blanks => simp [nextKey, skip_of_token blanks, read]
      | later before behind =>
        simp [nextKey, skip_of_token before, skip_of_token behind, read]

theorem textItems_of_close {first : Bool} {s rest : List Char}
    (h : nextItem first s = .ok (false, rest)) : textItems first s = .ok ([], rest) := by
  unfold textItems
  split <;> simp_all

theorem textItems_of_next {first : Bool} {s item rest rest' : List Char} {t : String}
    {ts : List String} (next : nextItem first s = .ok (true, item))
    (read : textValue item = .ok (t, rest)) (more : textItems false rest = .ok (ts, rest')) :
    textItems first s = .ok (t :: ts, rest') := by
  unfold textItems
  split
  · simp_all
  · simp_all
  · split <;> simp_all

theorem textItems_eq_ok_iff {first : Bool} {s rest : List Char} {ts : List String} :
    textItems first s = .ok (ts, rest) ↔ Items first s (ts.map .str) rest := by
  constructor
  · intro h
    fun_induction textItems first s generalizing ts rest with
    | case1 => cases h
    | case2 first s behind close =>
      cases h
      exact .close (nextItem_false_iff.1 close)
    | case3 => cases h
    | case4 => cases h
    | case5 first s item next t behind read us rest' more ih =>
      cases h
      obtain ⟨lead, -⟩ := nextItem_true_iff.1 next
      obtain ⟨a, blanks, quoted⟩ := textValue_eq_ok_iff.1 read
      exact .item (lead.trans blanks) (.str quoted) (ih more)
  · intro h
    induction ts generalizing first s with
    | nil =>
      exact textItems_of_close (nextItem_false_iff.2 (items_nil_iff.1 h))
    | cons t ts ih =>
      obtain ⟨a, b, lead, value, more⟩ := items_cons_iff.1 h
      have next := nextItem_true_iff.2 ⟨lead, value.head⟩
      have read := textValue_eq_ok_iff.2 ⟨a, .nil a, value_str_iff.1 value⟩
      exact textItems_of_next next read (ih more)

/-- An array of strings is read exactly as the grammar has it. -/
theorem texts_eq_ok_iff {s rest : List Char} {ts : List String} :
    texts s = .ok (ts, rest) ↔ ∃ a, Blanks s a ∧ Value a (.arr (ts.map .str)) rest := by
  constructor
  · intro h
    unfold texts at h
    split at h
    · rename_i items bracket
      exact ⟨_, blanks_of_skip bracket, .arr (textItems_eq_ok_iff.1 h)⟩
    · cases h
  · rintro ⟨a, blanks, value⟩
    obtain ⟨items, rfl, written⟩ := value_arr_iff.1 value
    simp [texts, skip_of_token blanks, textItems_eq_ok_iff.2 written]

end BenchJob.Json
