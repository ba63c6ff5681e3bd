import BenchJob.Text.Utf8
import Mathlib.Algebra.Group.Nat.Defs

/-!
# Bytes read as characters

Behind its first byte, a longer sequence goes on with six bits of the code point in each byte. The
machine that reads it owes as many bytes as are left of these, and it has the bits in front of them:
one more byte takes the state for one number of bytes to the state for the next, so one induction on
the bytes that are owed deals with sequences of all lengths. The first byte and the range of the
second one leave exactly the code points that are characters and need a sequence of this length.

## Main definitions

- `tailBytes`: the last bytes of the encoding of a code point.
- `Unfinished.Opens`: the code points to which a sequence may still lead.

## Main statements

- `pieces_eq_cons_iff`: a character is read exactly where its encoding stands.
- `decode?_eq_some_iff`: bytes are read as a string exactly if they are its encoding.
- `replacement_mem_decodeLossy`: other bytes leave a replacement character behind.
-/

namespace BenchJob.Text

/-! ## Behind the first byte -/

def tailBytes : Nat → Nat → Bytes
  | 0, _ => []
  | count + 1, n => UInt8.ofNat (n / 64 ^ count % 64 + 0x80) :: tailBytes count n

theorem tailBytes_zero (n : Nat) : tailBytes 0 n = [] := rfl

theorem tailBytes_succ (count n : Nat) :
    tailBytes (count + 1) n = UInt8.ofNat (n / 64 ^ count % 64 + 0x80) :: tailBytes count n := rfl

namespace Unfinished

theorem accepts_iff {u : Unfinished} {b : Nat} :
    u.accepts b = true ↔ u.low ≤ b ∧ b ≤ u.high := by
  rw [accepts, Bool.and_eq_true, decide_eq_true_eq, decide_eq_true_eq]

theorem push_continuation (u : Unfinished) (d : Nat) :
    u.push (d % 64 + 0x80) = u.bits * 64 + d % 64 := by
  unfold push
  omega

/-- The sequence may lead to the code point: the bits that were read are its bits in front of those
that are owed, and the next byte with bits of it lies in the range. -/
def Opens (u : Unfinished) (n : Nat) : Prop :=
  n / 64 ^ u.owed = u.bits ∧ u.accepts (n / 64 ^ (u.owed - 1) % 64 + 0x80) = true

/-- A byte is owed, and it has to be a continuation byte. -/
structure Proper (u : Unfinished) : Prop where
  owed_pos : 0 < u.owed
  le_low : 0x80 ≤ u.low
  high_le : u.high ≤ 0xBF

theorem proper_continuation (count bits : Nat) : Proper ⟨count + 1, 0x80, 0xBF, bits⟩ :=
  ⟨Nat.succ_pos count, Nat.le_refl _, Nat.le_refl _⟩

theorem Proper.continuation {u : Unfinished} (proper : u.Proper) {b : Nat}
    (h : u.accepts b = true) : 0x80 ≤ b ∧ b ≤ 0xBF := by
  obtain ⟨low, high⟩ := accepts_iff.1 h
  exact ⟨Nat.le_trans proper.le_low low, Nat.le_trans high proper.high_le⟩

/-- Behind one more byte, the sequence leads to the code points with the bits of this byte. -/
theorem opens_iff {count low high bits n : Nat} :
    Opens ⟨count + 2, low, high, bits⟩ n ↔
      (low ≤ n / 64 ^ (count + 1) % 64 + 0x80 ∧ n / 64 ^ (count + 1) % 64 + 0x80 ≤ high) ∧
      Opens ⟨count + 1, 0x80, 0xBF, bits * 64 + n / 64 ^ (count + 1) % 64⟩ n := by
  have shift : n / 64 ^ (count + 2) = n / 64 ^ (count + 1) / 64 := by
    rw [Nat.div_div_eq_div_mul, Nat.pow_succ 64 (count + 1)]
  simp only [Opens, accepts_iff, shift, Nat.add_one_sub_one]
  omega

end Unfinished

theorem toNat_continuation (d : Nat) :
    (UInt8.ofNat (d % 64 + 0x80)).toNat = d % 64 + 0x80 := by
  rw [UInt8.toNat_ofNat']
  omega

section

variable {u : Unfinished} {x : UInt8} {rest : Bytes}

theorem piecesFrom_last (next : u.accepts x.toNat = true) (last : u.owed = 1) :
    piecesFrom (some u) (x :: rest) = some (Char.ofNat (u.push x.toNat)) :: pieces rest := by
  rw [piecesFrom, if_pos next, if_pos last, pieces]

theorem piecesFrom_more (next : u.accepts x.toNat = true) (more : u.owed ≠ 1) :
    piecesFrom (some u) (x :: rest) =
      piecesFrom (some ⟨u.owed - 1, 0x80, 0xBF, u.push x.toNat⟩) rest := by
  rw [piecesFrom, if_pos next, if_neg more]

theorem piecesFrom_refused (other : u.accepts x.toNat = false) :
    piecesFrom (some u) (x :: rest) = none :: pieces (x :: rest) := by
  rw [piecesFrom, if_neg (by rw [other]; exact Bool.false_ne_true), pieces, piecesFrom]

theorem exists_accepted {b : Bytes} {c : Char} {ps : List (Option Char)}
    (h : piecesFrom (some u) b = some c :: ps) :
    ∃ x rest, b = x :: rest ∧ u.accepts x.toNat = true := by
  cases b with
  | nil => simp [piecesFrom] at h
  | cons x rest =>
    refine ⟨x, rest, rfl, Bool.of_not_eq_false ?_⟩
    intro other
    rw [piecesFrom_refused other] at h
    simp at h

end

/-- The bytes that are owed are read as the code point to which they lead. -/
theorem piecesFrom_tailBytes {u : Unfinished} {n : Nat} (proper : u.Proper) (h : u.Opens n)
    (rest : Bytes) :
    piecesFrom (some u) (tailBytes u.owed n ++ rest) = some (Char.ofNat n) :: pieces rest := by
  obtain ⟨owed, low, high, bits⟩ := u
  obtain ⟨count, rfl⟩ : ∃ count, owed = count + 1 := Nat.exists_eq_add_one.2 proper.owed_pos
  induction count generalizing low high bits with
  | zero =>
    obtain ⟨front, next⟩ := h
    have whole : bits * 64 + n / 64 ^ 0 % 64 = n := by
      simp only [Nat.zero_add, Nat.pow_one, Nat.pow_zero, Nat.div_one] at *
      omega
    rw [tailBytes_succ, List.cons_append, piecesFrom_last _ rfl, toNat_continuation,
      Unfinished.push_continuation, whole, tailBytes_zero, List.nil_append]
    rwa [toNat_continuation]
  | succ count ih =>
    obtain ⟨range, behind⟩ := Unfinished.opens_iff.1 h
    rw [tailBytes_succ, List.cons_append, piecesFrom_more _ (by simp), toNat_continuation,
      Unfinished.push_continuation]
    · exact ih _ _ _ (Unfinished.proper_continuation ..) behind
    · rw [toNat_continuation]
      exact Unfinished.accepts_iff.2 range

/-- Where a sequence ends as a character, the bytes that were owed stand there. -/
theorem tailBytes_of_piecesFrom {u : Unfinished} {b : Bytes} {c : Char} {ps : List (Option Char)}
    (proper : u.Proper) (h : piecesFrom (some u) b = some c :: ps) :
    ∃ n rest, u.Opens n ∧ b = tailBytes u.owed n ++ rest := by
  obtain ⟨owed, low, high, bits⟩ := u
  obtain ⟨count, rfl⟩ : ∃ count, owed = count + 1 := Nat.exists_eq_add_one.2 proper.owed_pos
  induction count generalizing low high bits b with
  | zero =>
    obtain ⟨x, rest, rfl, next⟩ := exists_accepted h
    have byte := proper.continuation next
    have six : (bits * 64 + (x.toNat - 0x80)) / 64 ^ 0 % 64 + 0x80 = x.toNat := by
      simp only [Nat.pow_zero, Nat.div_one]
      omega
    refine ⟨bits * 64 + (x.toNat - 0x80), rest, ⟨?_, ?_⟩, ?_⟩
    · simp only [Nat.zero_add, Nat.pow_one]
      omega
    · exact six.symm ▸ next
    · rw [tailBytes_succ, six, UInt8.ofNat_toNat, tailBytes_zero, List.cons_append,
        List.nil_append]
  | succ count ih =>
    obtain ⟨x, rest, rfl, next⟩ := exists_accepted h
    have byte := proper.continuation next
    rw [piecesFrom_more next (by simp)] at h
    obtain ⟨n, rest, behind, rfl⟩ := ih _ _ _ (Unfinished.proper_continuation ..) h
    -- The byte has the lowest six of the bits that are known in front of those still owed.
    have front : n / 64 ^ (count + 1) = bits * 64 + (x.toNat - 0x80) := behind.1
    have six : n / 64 ^ (count + 1) % 64 + 0x80 = x.toNat := by omega
    have bits_eq : n / 64 ^ (count + 1) % 64 = x.toNat - 0x80 := by omega
    refine ⟨n, rest, Unfinished.opens_iff.2 ⟨?_, bits_eq ▸ behind⟩, ?_⟩
    · rw [six]
      exact Unfinished.accepts_iff.1 next
    · show x :: (tailBytes (count + 1) n ++ rest) = tailBytes (count + 1 + 1) n ++ rest
      rw [tailBytes_succ (count + 1), six, UInt8.ofNat_toNat, List.cons_append]

/-! ## First bytes -/

section

variable {b : Nat}

theorem opening_one (h : b < 0x80) : opening b = .whole (some (Char.ofNat b)) := by
  rw [opening, if_pos h]

theorem opening_two (h : 0xC2 ≤ b ∧ b < 0xE0) :
    opening b = .unfinished ⟨1, 0x80, 0xBF, b - 0xC0⟩ := by
  rw [opening, if_neg (by omega), if_neg (by omega), if_pos h.2]

theorem opening_three (h : 0xE0 ≤ b ∧ b < 0xF0) :
    opening b = .unfinished
      ⟨2, if b = 0xE0 then 0xA0 else 0x80, if b = 0xED then 0x9F else 0xBF, b - 0xE0⟩ := by
  rw [opening, if_neg (by omega), if_neg (by omega), if_neg (by omega)]
  by_cases least : b = 0xE0
  · subst least
    rfl
  by_cases surrogates : b = 0xED
  · subst surrogates
    rfl
  rw [if_neg least, if_neg surrogates, if_pos h.2, if_neg least, if_neg surrogates]

theorem opening_four (h : 0xF0 ≤ b ∧ b < 0xF5) :
    opening b = .unfinished
      ⟨3, if b = 0xF0 then 0x90 else 0x80, if b = 0xF4 then 0x8F else 0xBF, b - 0xF0⟩ := by
  rw [opening, if_neg (by omega), if_neg (by omega), if_neg (by omega), if_neg (by omega),
    if_neg (by omega), if_neg (by omega)]
  by_cases least : b = 0xF0
  · subst least
    rfl
  by_cases largest : b = 0xF4
  · subst largest
    rfl
  rw [if_neg least, if_pos (by omega), if_neg least, if_neg largest]

theorem opening_invalid (h : 0x80 ≤ b ∧ b < 0xC2 ∨ 0xF5 ≤ b) : opening b = .whole none := by
  unfold opening
  repeat' split
  all_goals first | rfl | omega

/-- The first bytes of longer sequences, by the number of bytes that follow. -/
theorem opening_eq_unfinished_iff {u : Unfinished} :
    opening b = .unfinished u ↔
      ((0xC2 ≤ b ∧ b < 0xE0) ∧ u = ⟨1, 0x80, 0xBF, b - 0xC0⟩) ∨
      ((0xE0 ≤ b ∧ b < 0xF0) ∧ u =
        ⟨2, if b = 0xE0 then 0xA0 else 0x80, if b = 0xED then 0x9F else 0xBF, b - 0xE0⟩) ∨
      ((0xF0 ≤ b ∧ b < 0xF5) ∧ u =
        ⟨3, if b = 0xF0 then 0x90 else 0x80, if b = 0xF4 then 0x8F else 0xBF, b - 0xF0⟩) := by
  constructor
  · intro h
    by_cases two : 0xC2 ≤ b ∧ b < 0xE0
    · rw [opening_two two] at h
      exact .inl ⟨two, (Opening.unfinished.inj h).symm⟩
    by_cases three : 0xE0 ≤ b ∧ b < 0xF0
    · rw [opening_three three] at h
      exact .inr (.inl ⟨three, (Opening.unfinished.inj h).symm⟩)
    by_cases four : 0xF0 ≤ b ∧ b < 0xF5
    · rw [opening_four four] at h
      exact .inr (.inr ⟨four, (Opening.unfinished.inj h).symm⟩)
    by_cases one : b < 0x80
    · rw [opening_one one] at h
      cases h
    · rw [opening_invalid (by omega)] at h
      cases h
  · rintro (⟨range, rfl⟩ | ⟨range, rfl⟩ | ⟨range, rfl⟩)
    · exact opening_two range
    · exact opening_three range
    · exact opening_four range

/-- Only a byte below 128 is a character by itself. -/
theorem lt_of_opening_eq_whole {c : Char} (h : opening b = .whole (some c)) : b < 0x80 := by
  unfold opening at h
  repeat' split at h
  all_goals first | assumption | cases h

theorem proper_of_opening {u : Unfinished} (h : opening b = .unfinished u) : u.Proper := by
  rcases opening_eq_unfinished_iff.1 h with ⟨-, rfl⟩ | ⟨-, rfl⟩ | ⟨-, rfl⟩
  · exact ⟨Nat.succ_pos _, Nat.le_refl _, Nat.le_refl _⟩
  · exact ⟨Nat.succ_pos _, by simp only; split <;> omega, by simp only; split <;> omega⟩
  · exact ⟨Nat.succ_pos _, by simp only; split <;> omega, by simp only; split <;> omega⟩

end

/-- A sequence that starts with the byte and goes on with this many more may lead to the code
point. -/
def Begins (b count n : Nat) : Prop :=
  ∃ u, opening b = .unfinished u ∧ u.owed = count ∧ u.Opens n

section

variable {b n : Nat}

theorem begins_two : Begins b 1 n ↔ b = n / 64 + 0xC0 ∧ 0x80 ≤ n ∧ n < 0x800 := by
  constructor
  · rintro ⟨u, first, owed, opens⟩
    rcases opening_eq_unfinished_iff.1 first with ⟨range, rfl⟩ | ⟨-, rfl⟩ | ⟨-, rfl⟩
    · have front : n / 64 ^ 1 = b - 0xC0 := opens.1
      omega
    · cases owed
    · cases owed
  · rintro ⟨rfl, range⟩
    refine ⟨_, opening_two (by omega), rfl, ?_, Unfinished.accepts_iff.2 ?_⟩
    · simp only [Nat.pow_one]
      omega
    · simp only [Nat.sub_self, Nat.pow_zero, Nat.div_one]
      omega

theorem begins_three :
    Begins b 2 n ↔ b = n / 4096 + 0xE0 ∧ 0x800 ≤ n ∧ n < 0x10000 ∧ n.isValidChar := by
  unfold Nat.isValidChar
  constructor
  · rintro ⟨u, first, owed, opens⟩
    rcases opening_eq_unfinished_iff.1 first with ⟨-, rfl⟩ | ⟨range, rfl⟩ | ⟨-, rfl⟩
    · cases owed
    · have front : n / 64 ^ 2 = b - 0xE0 := opens.1
      have second : (if b = 0xE0 then 0xA0 else 0x80) ≤ n / 64 ^ 1 % 64 + 0x80 ∧
          n / 64 ^ 1 % 64 + 0x80 ≤ if b = 0xED then 0x9F else 0xBF :=
        Unfinished.accepts_iff.1 opens.2
      split at second <;> split at second <;> omega
    · cases owed
  · rintro ⟨rfl, range, valid⟩
    refine ⟨_, opening_three (by omega), rfl, ?_, Unfinished.accepts_iff.2 ?_⟩
    · simp only [Nat.reducePow]
      omega
    · simp only [Nat.add_one_sub_one, Nat.pow_one]
      split <;> split <;> omega

theorem begins_four :
    Begins b 3 n ↔ b = n / 262144 + 0xF0 ∧ 0x10000 ≤ n ∧ n.isValidChar := by
  unfold Nat.isValidChar
  constructor
  · rintro ⟨u, first, owed, opens⟩
    rcases opening_eq_unfinished_iff.1 first with ⟨-, rfl⟩ | ⟨-, rfl⟩ | ⟨range, rfl⟩
    · cases owed
    · cases owed
    · have front : n / 64 ^ 3 = b - 0xF0 := opens.1
      have second : (if b = 0xF0 then 0x90 else 0x80) ≤ n / 64 ^ 2 % 64 + 0x80 ∧
          n / 64 ^ 2 % 64 + 0x80 ≤ if b = 0xF4 then 0x8F else 0xBF :=
        Unfinished.accepts_iff.1 opens.2
      split at second <;> split at second <;> omega
  · rintro ⟨rfl, range, valid⟩
    refine ⟨_, opening_four (by omega), rfl, ?_, Unfinished.accepts_iff.2 ?_⟩
    · simp only [Nat.reducePow]
      omega
    · simp only [Nat.add_one_sub_one, Nat.reducePow]
      split <;> split <;> omega

end

/-! ## Encodings -/

section

variable {c : Char}

theorem utf8EncodeChar_one (h : c.toNat < 0x80) :
    String.utf8EncodeChar c = [UInt8.ofNat c.toNat] := by
  have one : c.val.toNat ≤ 0x7F := Nat.le_of_lt_succ h
  rw [String.utf8EncodeChar, if_pos one, Char.toNat]

theorem utf8EncodeChar_two (h : 0x80 ≤ c.toNat ∧ c.toNat < 0x800) :
    String.utf8EncodeChar c = UInt8.ofNat (c.toNat / 64 + 0xC0) :: tailBytes 1 c.toNat := by
  have lead : c.toNat / 64 % 32 = c.toNat / 64 := by omega
  simp only [Char.toNat] at *
  rw [String.utf8EncodeChar, if_neg (by omega), if_pos (by omega), lead]
  simp only [tailBytes, Nat.pow_zero, Nat.div_one]

theorem utf8EncodeChar_three (h : 0x800 ≤ c.toNat ∧ c.toNat < 0x10000) :
    String.utf8EncodeChar c = UInt8.ofNat (c.toNat / 4096 + 0xE0) :: tailBytes 2 c.toNat := by
  have lead : c.toNat / 4096 % 16 = c.toNat / 4096 := by omega
  simp only [Char.toNat] at *
  rw [String.utf8EncodeChar, if_neg (by omega), if_neg (by omega), if_pos (by omega), lead]
  simp only [tailBytes, Nat.pow_zero, Nat.div_one, Nat.pow_one]

theorem utf8EncodeChar_four (h : 0x10000 ≤ c.toNat) :
    String.utf8EncodeChar c = UInt8.ofNat (c.toNat / 262144 + 0xF0) :: tailBytes 3 c.toNat := by
  have large : c.toNat < 0x110000 := by
    have valid : c.toNat.isValidChar := c.valid
    unfold Nat.isValidChar at valid
    omega
  have lead : c.toNat / 262144 % 8 = c.toNat / 262144 := by omega
  simp only [Char.toNat] at *
  rw [String.utf8EncodeChar, if_neg (by omega), if_neg (by omega), if_neg (by omega), lead]
  simp only [tailBytes, Nat.pow_zero, Nat.div_one, Nat.reducePow, Nat.pow_one]

end

theorem exists_char_of_valid {n : Nat} (valid : n.isValidChar) : ∃ c : Char, c.toNat = n :=
  ⟨Char.ofNatAux n valid, rfl⟩

/-- A character of several bytes is encoded by the first byte of a sequence that may lead to it, and
the bytes that follow. -/
theorem exists_begins {c : Char} (h : 0x80 ≤ c.toNat) :
    ∃ (b : UInt8) (count : Nat), Begins b.toNat count c.toNat ∧
      String.utf8EncodeChar c = b :: tailBytes count c.toNat := by
  have valid : c.toNat.isValidChar := c.valid
  have bound : c.toNat < 0x110000 := by
    unfold Nat.isValidChar at valid
    omega
  by_cases two : c.toNat < 0x800
  · refine ⟨_, 1, begins_two.2 ⟨?_, h, two⟩, utf8EncodeChar_two ⟨h, two⟩⟩
    rw [UInt8.toNat_ofNat']
    omega
  by_cases three : c.toNat < 0x10000
  · have range : 0x800 ≤ c.toNat := Nat.le_of_not_lt two
    refine ⟨_, 2, begins_three.2 ⟨?_, range, three, valid⟩, utf8EncodeChar_three ⟨range, three⟩⟩
    rw [UInt8.toNat_ofNat']
    omega
  · have range : 0x10000 ≤ c.toNat := Nat.le_of_not_lt three
    refine ⟨_, 3, begins_four.2 ⟨?_, range, valid⟩, utf8EncodeChar_four range⟩
    rw [UInt8.toNat_ofNat']
    omega

/-- What a sequence may lead to is a character, and the sequence is its encoding. -/
theorem encoding_of_begins {b : UInt8} {count n : Nat} (h : Begins b.toNat count n) :
    ∃ c : Char, c.toNat = n ∧ String.utf8EncodeChar c = b :: tailBytes count n := by
  obtain ⟨u, first, rfl, opens⟩ := h
  have begins : Begins b.toNat u.owed n := ⟨u, first, rfl, opens⟩
  -- The first byte says how many bytes follow.
  obtain owed | owed | owed : u.owed = 1 ∨ u.owed = 2 ∨ u.owed = 3 := by
    rcases opening_eq_unfinished_iff.1 first with ⟨-, rfl⟩ | ⟨-, rfl⟩ | ⟨-, rfl⟩ <;> simp
  · rw [owed] at begins ⊢
    obtain ⟨byte, low, high⟩ := begins_two.1 begins
    obtain ⟨c, rfl⟩ := exists_char_of_valid (n := n) (.inl (by omega))
    exact ⟨c, rfl, by rw [utf8EncodeChar_two ⟨low, high⟩, ← byte, UInt8.ofNat_toNat]⟩
  · rw [owed] at begins ⊢
    obtain ⟨byte, low, high, valid⟩ := begins_three.1 begins
    obtain ⟨c, rfl⟩ := exists_char_of_valid valid
    exact ⟨c, rfl, by rw [utf8EncodeChar_three ⟨low, high⟩, ← byte, UInt8.ofNat_toNat]⟩
  · rw [owed] at begins ⊢
    obtain ⟨byte, low, valid⟩ := begins_four.1 begins
    obtain ⟨c, rfl⟩ := exists_char_of_valid valid
    exact ⟨c, rfl, by rw [utf8EncodeChar_four low, ← byte, UInt8.ofNat_toNat]⟩

/-! ## Whole texts -/

/-- The encoding of a character is read as the character. -/
theorem pieces_utf8EncodeChar (c : Char) (rest : Bytes) :
    pieces (String.utf8EncodeChar c ++ rest) = some c :: pieces rest := by
  by_cases one : c.toNat < 0x80
  · have byte : (UInt8.ofNat c.toNat).toNat = c.toNat := by
      rw [UInt8.toNat_ofNat']
      omega
    rw [utf8EncodeChar_one one, List.singleton_append, pieces, piecesFrom, byte, opening_one one]
    simp only [Char.ofNat_toNat, pieces]
  · obtain ⟨b, count, ⟨u, first, rfl, opens⟩, encoding⟩ := exists_begins (Nat.le_of_not_lt one)
    have read := piecesFrom_tailBytes (proper_of_opening first) opens rest
    rw [encoding, List.cons_append, pieces, piecesFrom, first]
    rw [Char.ofNat_toNat] at read
    exact read

/-- A character is read exactly where its encoding stands. -/
theorem pieces_eq_cons_iff {b : Bytes} {c : Char} {ps : List (Option Char)} :
    pieces b = some c :: ps ↔ ∃ rest, b = String.utf8EncodeChar c ++ rest ∧ pieces rest = ps := by
  constructor
  · intro h
    suffices ∃ d rest, b = String.utf8EncodeChar d ++ rest by
      obtain ⟨d, rest, rfl⟩ := this
      rw [pieces_utf8EncodeChar] at h
      obtain ⟨same, behind⟩ := List.cons.inj h
      exact ⟨rest, by rw [Option.some.inj same], behind⟩
    cases b with
    | nil => cases h
    | cons x rest =>
      rw [pieces, piecesFrom] at h
      cases first : opening x.toNat with
      | unfinished u =>
        rw [first] at h
        obtain ⟨n, rest, opens, rfl⟩ := tailBytes_of_piecesFrom (proper_of_opening first) h
        obtain ⟨d, -, encoding⟩ := encoding_of_begins ⟨u, first, rfl, opens⟩
        exact ⟨d, rest, by rw [encoding, List.cons_append]⟩
      | whole piece =>
        rw [first] at h
        obtain rfl : piece = some c := (List.cons.inj h).1
        have one := lt_of_opening_eq_whole first
        obtain ⟨d, code⟩ := exists_char_of_valid (n := x.toNat) (.inl (by omega))
        refine ⟨d, rest, ?_⟩
        rw [utf8EncodeChar_one (code ▸ one), code, UInt8.ofNat_toNat, List.singleton_append]
  · rintro ⟨rest, rfl, rfl⟩
    exact pieces_utf8EncodeChar c rest

theorem wellFormed?_map_some (cs : List Char) : wellFormed? (cs.map some) = some cs := by
  induction cs with
  | nil => rfl
  | cons c cs ih => rw [List.map_cons, wellFormed?, ih, Option.map_some]

theorem wellFormed?_eq_some_iff {ps : List (Option Char)} {cs : List Char} :
    wellFormed? ps = some cs ↔ ps = cs.map some := by
  constructor
  · intro h
    induction ps generalizing cs with
    | nil => rw [← Option.some.inj h, List.map_nil]
    | cons piece ps ih =>
      cases piece with
      | none => cases h
      | some c =>
        obtain ⟨ds, read, rfl⟩ := Option.map_eq_some_iff.1 h
        rw [ih read, List.map_cons]
  · rintro rfl
    exact wellFormed?_map_some cs

theorem wellFormed?_eq_none_iff {ps : List (Option Char)} : wellFormed? ps = none ↔ none ∈ ps := by
  induction ps with
  | nil => simp [wellFormed?]
  | cons piece ps ih => cases piece <;> simp [wellFormed?, ih]

/-- A sequence that was begun is at least a malformed piece. -/
theorem piecesFrom_unfinished_ne_nil (u : Unfinished) (b : Bytes) : piecesFrom (some u) b ≠ [] := by
  induction b generalizing u with
  | nil => simp [piecesFrom]
  | cons x rest ih =>
    cases next : u.accepts x.toNat with
    | false => simp [piecesFrom_refused next]
    | true =>
      by_cases last : u.owed = 1
      · simp [piecesFrom_last next last]
      · rw [piecesFrom_more next last]
        exact ih _

theorem pieces_eq_nil_iff {b : Bytes} : pieces b = [] ↔ b = [] := by
  cases b with
  | nil => exact iff_of_true rfl rfl
  | cons x rest =>
    refine iff_of_false ?_ (List.cons_ne_nil x rest)
    rw [pieces, piecesFrom]
    cases opening x.toNat with
    | whole piece => exact List.cons_ne_nil _ _
    | unfinished u => exact piecesFrom_unfinished_ne_nil u rest

theorem pieces_eq_map_some_iff {b : Bytes} {cs : List Char} :
    pieces b = cs.map some ↔ b = encodeChars cs := by
  induction cs generalizing b with
  | nil => exact pieces_eq_nil_iff
  | cons c cs ih =>
    rw [List.map_cons, pieces_eq_cons_iff]
    simp only [ih, encodeChars, List.flatMap_cons, exists_eq_right]

/-- Bytes are read as a string exactly if they are its encoding. -/
theorem decode?_eq_some_iff {b : Bytes} {s : String} : decode? b = some s ↔ b = encode s := by
  rw [decode?, Option.map_eq_some_iff, encode, ← pieces_eq_map_some_iff]
  simp only [wellFormed?_eq_some_iff]
  constructor
  · rintro ⟨cs, read, rfl⟩
    rw [read, String.toList_ofList]
  · intro read
    exact ⟨s.toList, read, String.ofList_toList⟩

/-- What a string is encoded as is read as the string, with or without malformed pieces. -/
theorem decodeLossy_encode (s : String) : decodeLossy (encode s) = s := by
  have read : pieces (encode s) = s.toList.map some := pieces_eq_map_some_iff.2 rfl
  have back : (fun piece : Option Char => piece.getD replacement) ∘ some = id := rfl
  rw [decodeLossy, read, List.map_map, back, List.map_id, String.ofList_toList]

/-- Bytes that encode no string leave a replacement character in what they are read as. -/
theorem replacement_mem_decodeLossy {b : Bytes} (h : ∀ s, b ≠ encode s) :
    replacement ∈ (decodeLossy b).toList := by
  have unread : decode? b = none :=
    Option.eq_none_iff_forall_ne_some.2 fun s read => h s (decode?_eq_some_iff.1 read)
  have malformed : none ∈ pieces b := wellFormed?_eq_none_iff.1 (Option.map_eq_none_iff.1 unread)
  rw [decodeLossy, String.toList_ofList]
  exact List.mem_map.2 ⟨none, malformed, rfl⟩

end BenchJob.Text
