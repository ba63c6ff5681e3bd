import BenchJob.Json.Fault

/-!
# Reading along JSON text

A reader takes characters from the front of a text and answers with what they mean and with the
rest, or with the fault that it met. Readers that take at least one character say so in a lemma, by
which the loops that call them are seen to end.

## Main definitions

- `Scan`: the answer of a reader.
- `skip`: the text behind the blanks in front of it.
- `literal`: the rest of a fixed word.
-/

namespace BenchJob.Json

/-- What a reader makes of the front of a text, with the rest of the text, or a fault. -/
abbrev Scan (α : Type) := Except Fault (α × List Char)

def isSpace (c : Char) : Bool := c = ' ' || c = '\n' || c = '\t' || c = '\r'

def skip (s : List Char) : List Char := s.dropWhile isSpace

theorem skip_length_le (s : List Char) : (skip s).length ≤ s.length :=
  (List.dropWhile_suffix isSpace).length_le

theorem skip_length_lt {s rest : List Char} {c : Char} (h : skip s = c :: rest) :
    (skip rest).length < s.length := by
  have := skip_length_le s
  have := skip_length_le rest
  simp only [h, List.length_cons] at *
  omega

/-- The rest of a fixed word, character by character. -/
def literal : List Char → List Char → Scan Unit
  | [], s => .ok ((), s)
  | _ :: _, [] => .error (.here .endInValue [])
  | c :: word, d :: rest =>
    if c = d then literal word rest else .error (.atNext .badLiteral (d :: rest))

end BenchJob.Json
