import BenchJob.Json.Scan.Numeral
import BenchJob.Json.Scan.Text

/-!
# Values of another kind

Where a value of one kind is expected and another one stands, the words for the fault say what was
found. A literal, a number or a string is read for this, and a fault inside it comes first; of an
array or an object only the bracket is looked at.

## Main definitions

- `found`: the value in front of a text.
- `refuse`: the fault of a value that is not of the expected kind.
-/

namespace BenchJob.Json

def literalValue (word : List Char) (value : Found) (s : List Char) : Scan Found :=
  match literal word s with
  | .error e => .error e
  | .ok ((), rest) => .ok (value, rest)

def found : List Char → Scan Found
  | [] => .error (.atNext .endInValue [])
  | 'n' :: rest => literalValue ['u', 'l', 'l'] .null rest
  | 't' :: rest => literalValue ['r', 'u', 'e'] (.bool true) rest
  | 'f' :: rest => literalValue ['a', 'l', 's', 'e'] (.bool false) rest
  | '"' :: rest =>
    match text rest with
    | .error e => .error e
    | .ok (s, rest) => .ok (.str s, rest)
  | '[' :: rest => .ok (.arr, '[' :: rest)
  | '\x7b' :: rest => .ok (.obj, '\x7b' :: rest)
  | c :: rest =>
    if c = '-' ∨ c.isDigit then number (c :: rest) else .error (.atNext .noValue (c :: rest))

/-- The fault of a value that is not of the expected kind. -/
def refuse (expected : String) (s : List Char) : Fault :=
  match found s with
  | .error e => e
  | .ok (value, rest) => .here (.wrongKind value expected) rest

def textValue (s : List Char) : Scan String :=
  match skip s with
  | '"' :: rest => text rest
  | s => .error (refuse "a string" s)

/-- A string or the literal for none, behind blanks. -/
def optionalText (s : List Char) : Scan (Option String) :=
  match skip s with
  | 'n' :: rest =>
    match literal ['u', 'l', 'l'] rest with
    | .error e => .error e
    | .ok ((), rest) => .ok (none, rest)
  | _ =>
    match textValue s with
    | .error e => .error e
    | .ok (t, rest) => .ok (some t, rest)

theorem literal_length {word s rest : List Char} {u : Unit} (h : literal word s = .ok (u, rest)) :
    rest.length ≤ s.length := by
  fun_induction literal word s with
  | case1 => cases h; exact Nat.le_refl _
  | case2 => cases h
  | case3 c word s ih => exact Nat.le_succ_of_le (ih h)
  | case4 => cases h

theorem textValue_length {s rest : List Char} {t : String} (h : textValue s = .ok (t, rest)) :
    rest.length < s.length := by
  unfold textValue at h
  split at h
  · rename_i r hs
    have := skip_length_le s
    have := text_length h
    simp only [hs, List.length_cons] at *
    omega
  · cases h

theorem optionalText_length {s rest : List Char} {t : Option String}
    (h : optionalText s = .ok (t, rest)) : rest.length < s.length := by
  have hs := skip_length_le s
  unfold optionalText at h
  repeat' split at h
  all_goals simp only [reduceCtorEq, Except.ok.injEq, Prod.mk.injEq] at h
  all_goals obtain ⟨-, rfl⟩ := h
  · have := literal_length ‹literal _ _ = _›
    simp only [*, List.length_cons] at hs
    omega
  · exact textValue_length ‹textValue _ = _›

end BenchJob.Json
