import BenchJob.Proofs.Apps
import BenchJob.Proofs.Json.Strings
import BenchJob.Proofs.Text.Integer

/-!
# Where the envelope starts

The app writes to the same standard output as the job, and may write anything. A reader finds the
envelope all the same: it starts at the last place where an open brace is followed by a line with
the key `success` two blanks deep. Line breaks inside strings are escaped, so a line is as deep as
its value stands in the envelope, and only the members of the envelope itself are two blanks deep.

## Main definitions

- `IsLastOccurrence`: the last place of a text where a word starts.
- `Avoids`: no occurrence of a word starts in a list, whatever stands behind it.
- `Envelope.opening`: the first bytes of every envelope.
- `Json.Inner`: characters in which no line with the envelope's first key starts.

## Main statements

- `Json.inner_chars`: a value below the root is such characters, whatever strings it holds.
- `Envelope.opening_occurs_iff`: an envelope looks like the start of one only at its start.
- `opening_isLastOccurrence`: the last start of an envelope on standard output is the real one.
-/

namespace BenchJob

open Text (Bytes encode encodeChars)

/-! ## Words in lists -/

section

variable {α : Type}

/-- The word starts at this place of the text, and at no later one. -/
structure IsLastOccurrence (word text : List α) (place : Nat) : Prop where
  occurs : word <+: text.drop place
  last : ∀ i, place < i → ¬ word <+: text.drop i

theorem prefix_drop_succ {word text : List α} {x : α} {i : Nat} (h : x :: word <+: text.drop i) :
    word <+: text.drop (i + 1) := by
  obtain ⟨rest, split⟩ := h
  rw [← List.tail_drop, ← split]
  exact List.prefix_append word rest

/-- No occurrence of the word starts in `a`, whatever stands behind it. -/
def Avoids (word a : List α) : Prop :=
  ∀ rest i, i < a.length → ¬ word <+: (a ++ rest).drop i

variable {word a b : List α} {x : α}

theorem Avoids.nil : Avoids word [] := by
  intro rest i within
  simp at within

theorem Avoids.append (ha : Avoids word a) (hb : Avoids word b) : Avoids word (a ++ b) := by
  intro rest i within
  rw [List.append_assoc]
  by_cases first : i < a.length
  · exact ha _ i first
  · rw [List.drop_append, List.drop_eq_nil_of_le (by omega), List.nil_append]
    refine hb rest _ ?_
    rw [List.length_append] at within
    omega

theorem Avoids.not_prefix_drop (ha : Avoids word a) (hb : b.length < word.length) (i : Nat) :
    ¬ word <+: (a ++ b).drop i := by
  by_cases within : i < a.length
  · exact ha b i within
  · intro starts
    have long := starts.length_le
    rw [List.length_drop, List.length_append] at long
    omega

/-- A list without the first letter of a word avoids it. -/
theorem Avoids.of_notMem (h : x ∉ a) : Avoids (x :: word) a := by
  intro rest i within starts
  rw [List.drop_append_of_le_length (Nat.le_of_lt within), List.drop_eq_getElem_cons within,
    List.cons_append, List.cons_prefix_cons] at starts
  exact h (starts.1 ▸ List.getElem_mem within)

/-- A list avoids a word if each of its ends differs from it in a letter that both of them have. -/
theorem Avoids.of_differs
    (h : ∀ i < a.length, ¬ word <+: a.drop i ∧ ¬ a.drop i <+: word) : Avoids word a := by
  intro rest i within starts
  rw [List.drop_append_of_le_length (Nat.le_of_lt within)] at starts
  rcases List.prefix_or_prefix_of_prefix starts (List.prefix_append (a.drop i) rest) with hw | ha
  · exact (h i within).1 hw
  · exact (h i within).2 ha

end

/-! ## Line breaks -/

namespace Text

@[simp] theorem encodeChars_append (a b : List Char) :
    encodeChars (a ++ b) = encodeChars a ++ encodeChars b :=
  List.flatMap_append

/-- The byte of a line break is part of no other character. -/
theorem eq_newline_of_mem_utf8EncodeChar {c : Char} (h : 0x0A ∈ String.utf8EncodeChar c) :
    c = '\n' := by
  have byte : ∀ n : Nat, (0x0A : UInt8) = UInt8.ofNat n → n % 256 = 10 := by
    intro n h
    simpa using (congrArg UInt8.toNat h).symm
  simp only [String.utf8EncodeChar] at h
  repeat' split at h
  all_goals simp only [List.mem_cons, List.not_mem_nil, or_false] at h
  · have code := byte _ h
    exact Char.ext (UInt32.toNat_inj.1 (show c.val.toNat = 10 by omega))
  · rcases h with h | h <;> have code := byte _ h <;> omega
  · rcases h with h | h | h <;> have code := byte _ h <;> omega
  · rcases h with h | h | h | h <;> have code := byte _ h <;> omega

theorem newline_notMem_encodeChars {s : List Char} (h : '\n' ∉ s) : 0x0A ∉ encodeChars s := by
  intro mem
  obtain ⟨c, here, byte⟩ := List.mem_flatMap.1 mem
  exact h (eq_newline_of_mem_utf8EncodeChar byte ▸ here)

end Text

/-! ## Values inside an envelope -/

def Envelope.openingLine : Bytes := 0x0A :: encode "  \"success\": "

/-- The first bytes of an envelope: its brace, and the key that comes first. -/
def Envelope.opening : Bytes := encode "\x7b\n  \"success\": "

namespace Json

/-- No line with the first key of an envelope starts in these characters. -/
def Inner (s : List Char) : Prop := Avoids Envelope.openingLine (encodeChars s)

theorem Inner.append {a b : List Char} (ha : Inner a) (hb : Inner b) : Inner (a ++ b) := by
  unfold Inner
  rw [Text.encodeChars_append]
  exact Avoids.append ha hb

theorem inner_of_newline_notMem {s : List Char} (h : '\n' ∉ s) : Inner s :=
  .of_notMem (Text.newline_notMem_encodeChars h)

/-- A line that is more than two blanks deep holds no key of the envelope itself. -/
theorem inner_newline (k : Nat) : Inner (newline (k + 2)) := by
  have blanks : newline (k + 2) = ['\n', ' ', ' ', ' '] ++ List.replicate (2 * k + 1) ' ' := by
    simp [newline, Nat.mul_add, List.replicate_succ]
  rw [blanks]
  exact .append (.of_differs (by decide)) (inner_of_newline_notMem (by simp))

/-- Behind two blanks may stand a closing bracket, but that is no key. -/
theorem inner_close (k : Nat) {bracket : Char} (h : bracket = ']' ∨ bracket = '\x7d') :
    Inner (newline (k + 1) ++ [bracket]) := by
  cases k with
  | zero => rcases h with rfl | rfl <;> exact .of_differs (by decide)
  | succ k =>
    refine (inner_newline k).append (inner_of_newline_notMem ?_)
    rcases h with rfl | rfl <;> decide

theorem inner_separator {α : Type} (rest : List α) : Inner (separator rest) := by
  cases rest <;> exact inner_of_newline_notMem (by simp [separator])

theorem chars_arr_cons (depth : Nat) (item : Json) (rest : List Json) :
    chars depth (.arr (item :: rest)) =
      ['['] ++ itemChars (depth + 1) (item :: rest) ++ (newline depth ++ [']']) := by
  simp [chars]

theorem chars_obj_cons (depth : Nat) (member : String × Json) (rest : List (String × Json)) :
    chars depth (.obj (member :: rest)) =
      ['\x7b'] ++ memberChars (depth + 1) (member :: rest) ++ (newline depth ++ ['\x7d']) := by
  simp [chars]

-- Below the root, a value starts at depth one or deeper, and its items and members deeper still.
mutual

/-- No value inside an envelope looks like the start of one. -/
theorem inner_chars (k : Nat) : ∀ v : Json, Inner (chars (k + 1) v)
  | .null | .bool true | .bool false | .arr [] | .obj [] =>
    inner_of_newline_notMem (by simp [chars])
  | .int n => inner_of_newline_notMem (Text.Integer.notMem_chars rfl (by decide) (by decide) n)
  | .str s => inner_of_newline_notMem (newline_notMem_stringChars s)
  | .arr (item :: rest) => by
    rw [chars_arr_cons]
    exact ((inner_of_newline_notMem (by decide)).append (inner_itemChars k (item :: rest))).append
      (inner_close k (.inl rfl))
  | .obj (member :: rest) => by
    rw [chars_obj_cons]
    exact ((inner_of_newline_notMem (by decide)).append
      (inner_memberChars k (member :: rest))).append (inner_close k (.inr rfl))

theorem inner_itemChars (k : Nat) : ∀ items : List Json, Inner (itemChars (k + 2) items)
  | [] => .nil
  | item :: rest => by
    rw [itemChars]
    exact (((inner_newline k).append (inner_chars (k + 1) item)).append
      (inner_separator rest)).append (inner_itemChars k rest)

theorem inner_memberChars (k : Nat) :
    ∀ members : List (String × Json), Inner (memberChars (k + 2) members)
  | [] => .nil
  | (key, value) :: rest => by
    have name : Inner (stringChars key) := inner_of_newline_notMem (newline_notMem_stringChars key)
    have colon : Inner [':', ' '] := inner_of_newline_notMem (by decide)
    rw [memberChars]
    exact (((((inner_newline k).append name).append colon).append
      (inner_chars (k + 1) value)).append (inner_separator rest)).append (inner_memberChars k rest)

end

end Json

/-! ## Envelopes -/

namespace Envelope

open Json (Inner)

theorem encode_pretty (success : Bool) {key : String} (v : Json)
    (h : Inner (Json.newline 1 ++ Json.stringChars key)) :
    ∃ tail, encode ((Json.obj [("success", .bool success), (key, v)]).pretty ++ "\n") =
      opening ++ encodeChars (tail ++ ['\n']) ∧ Inner tail := by
  refine ⟨Json.chars 1 (.bool success) ++ [','] ++ (Json.newline 1 ++ Json.stringChars key) ++
    [':', ' '] ++ Json.chars 1 v ++ ['\n', '\x7d'], ?_, ?_⟩
  · have first : opening = encodeChars
        (['\x7b'] ++ (Json.newline 1 ++ Json.stringChars "success" ++ [':', ' '])) := by
      decide
    rw [first, ← Text.encodeChars_append]
    simp [encode, Json.pretty, Json.chars_obj_cons, Json.memberChars, Json.separator, Json.newline]
  · have comma : Inner [','] := Json.inner_of_newline_notMem (by decide)
    have colon : Inner [':', ' '] := Json.inner_of_newline_notMem (by decide)
    have close : Inner ['\n', '\x7d'] := .of_differs (by decide)
    exact (((((Json.inner_chars 0 _).append comma).append h).append colon).append
      (Json.inner_chars 0 v)).append close

theorem encode_text (result : Except Failure Json) :
    ∃ tail, encode (text result) = opening ++ encodeChars (tail ++ ['\n']) ∧ Inner tail := by
  cases result with
  | ok data => exact encode_pretty true data.sorted (.of_differs (by decide))
  | error f => exact encode_pretty false (ofFailure f) (.of_differs (by decide))

/-- An envelope looks like the start of an envelope at its start, and nowhere else. -/
theorem opening_occurs_iff (result : Except Failure Json) (i : Nat) :
    opening <+: (encode (text result)).drop i ↔ i = 0 := by
  obtain ⟨tail, shape, inner⟩ := encode_text result
  have first : opening = [0x7B, 0x0A] ++ encode "  \"success\": " := by decide
  have brace : opening = 0x7B :: openingLine := by decide
  cases i with
  | zero => simp [shape]
  | succ i =>
    refine iff_of_false ?_ (Nat.succ_ne_zero i)
    intro occurs
    -- The line break of this opening lies behind the one of the first.
    have line : openingLine <+:
        (encode "  \"success\": " ++ encodeChars tail ++ [0x0A]).drop i := by
      have next := prefix_drop_succ (brace ▸ occurs)
      rwa [shape, first, Text.encodeChars_append, List.append_assoc, ← List.append_assoc] at next
    have avoids : Avoids openingLine (encode "  \"success\": " ++ encodeChars tail) :=
      .append (.of_notMem (by decide)) inner
    exact avoids.not_prefix_drop (by decide) i line

end Envelope

/-! ## Standard output -/

/-- Whatever the app writes, the last opening of an envelope on standard output is the one of the
answer, and in front of it stands what the app wrote. -/
theorem opening_isLastOccurrence (w : World) (c : Command) :
    let e := execute w .writable c
    let written := (e.log.apps w).flatMap (·.stdout)
    (∀ result i, Envelope.opening <+: (encode (Envelope.text result)).drop i ↔ i = 0) ∧
    e.stdout = written ++ encode (Envelope.text e.answer.result) ∧
    IsLastOccurrence Envelope.opening e.stdout written.length := by
  intro e written
  have shape : e.stdout = written ++ encode (Envelope.text e.answer.result) := by
    have written_eq : e.log.stdout = written := stdout_execute w .writable c
    rw [← written_eq]
    rfl
  refine ⟨Envelope.opening_occurs_iff, shape, ?_, ?_⟩
  · rw [shape, List.drop_left]
    exact (Envelope.opening_occurs_iff _ 0).2 rfl
  · intro i behind occurs
    rw [shape, List.drop_append, List.drop_eq_nil_of_le (Nat.le_of_lt behind), List.nil_append,
      Envelope.opening_occurs_iff] at occurs
    omega

end BenchJob
