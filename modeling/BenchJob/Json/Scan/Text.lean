import BenchJob.Json.Scan.Basic

/-!
# Strings in JSON text

A string ends at the first quote that is not escaped. Control characters have to be escaped. An
escape by number names a unit of 16 bits; the two halves of a surrogate pair name one character
together, and neither may stand alone.

## Main definitions

- `hexUnit`: four hexadecimal digits.
- `escape`: what stands behind a backslash.
- `textBody`: a string behind its opening quote.
-/

namespace BenchJob.Json

def hexValue? (c : Char) : Option Nat :=
  if '0' ≤ c ∧ c ≤ '9' then some (c.toNat - '0'.toNat)
  else if 'a' ≤ c ∧ c ≤ 'f' then some (c.toNat - 'a'.toNat + 10)
  else if 'A' ≤ c ∧ c ≤ 'F' then some (c.toNat - 'A'.toNat + 10)
  else none

def hexNumber? (n : Nat) : List Char → Option Nat
  | [] => some n
  | c :: rest => (hexValue? c).bind fun d => hexNumber? (16 * n + d) rest

/-- The unit of 16 bits that the next four bytes write in hexadecimal. -/
def hexUnit (s : List Char) : Scan Nat :=
  if Text.byteCount s < 4 then .error ⟨.endInString, 0⟩
  else match hexNumber? 0 (s.take 4) with
    | some n => .ok (n, s.drop 4)
    | none => .error ⟨.badEscape, Text.byteCount s - 4⟩

/-- Is the unit the first half of a surrogate pair? -/
def isLead (n : Nat) : Bool := 0xD800 ≤ n && n < 0xDC00

def isTrail (n : Nat) : Bool := 0xDC00 ≤ n && n < 0xE000

def ofPair (lead trail : Nat) : Char :=
  Char.ofNat (0x10000 + (lead - 0xD800) * 0x400 + (trail - 0xDC00))

/-- The second half of a surrogate pair, which has to be escaped too. -/
def trailUnit : List Char → Scan Nat
  | [] => .error (.here .endInString [])
  | '\\' :: [] => .error (.here .endInString [])
  | '\\' :: 'u' :: rest =>
    match hexUnit rest with
    | .error e => .error e
    | .ok (trail, rest) =>
      if isTrail trail then .ok (trail, rest) else .error (.here .loneSurrogate rest)
  | '\\' :: rest => .error (.atNext .surrogateEnds rest)
  | rest => .error (.atNext .surrogateEnds rest)

/-- The character of an escape by number, behind its letter. -/
def numbered (s : List Char) : Scan Char :=
  match hexUnit s with
  | .error e => .error e
  | .ok (n, rest) =>
    if isTrail n then .error (.here .loneSurrogate rest)
    else if isLead n then
      match trailUnit rest with
      | .error e => .error e
      | .ok (trail, rest) => .ok (ofPair n trail, rest)
    else .ok (Char.ofNat n, rest)

def shortEscape? : Char → Option Char
  | '"' => some '"'
  | '\\' => some '\\'
  | '/' => some '/'
  | 'b' => some '\x08'
  | 'f' => some '\x0c'
  | 'n' => some '\n'
  | 'r' => some '\r'
  | 't' => some '\t'
  | _ => none

def escape : List Char → Scan Char
  | [] => .error (.here .endInString [])
  | 'u' :: rest => numbered rest
  | c :: rest =>
    match shortEscape? c with
    | some d => .ok (d, rest)
    | none => .error (.atNext .badEscape (c :: rest))

/-- The next character of a string, or none at its closing quote. -/
def element : List Char → Scan (Option Char)
  | [] => .error (.here .endInString [])
  | '"' :: rest => .ok (none, rest)
  | '\\' :: rest =>
    match escape rest with
    | .error e => .error e
    | .ok (c, rest) => .ok (some c, rest)
  | c :: rest =>
    if c.toNat < 0x20 then .error (.atNext .controlCharacter (c :: rest)) else .ok (some c, rest)

theorem hexUnit_length {s rest : List Char} {n : Nat} (h : hexUnit s = .ok (n, rest)) :
    rest.length ≤ s.length := by
  unfold hexUnit at h
  split at h
  · cases h
  · split at h
    · cases h
      simp
    · cases h

theorem trailUnit_length {s rest : List Char} {n : Nat} (h : trailUnit s = .ok (n, rest)) :
    rest.length ≤ s.length := by
  unfold trailUnit at h
  repeat' split at h
  all_goals simp only [reduceCtorEq, Except.ok.injEq, Prod.mk.injEq] at h
  obtain ⟨-, rfl⟩ := h
  have := hexUnit_length ‹hexUnit _ = _›
  simp only [List.length_cons]
  omega

theorem numbered_length {s rest : List Char} {c : Char} (h : numbered s = .ok (c, rest)) :
    rest.length ≤ s.length := by
  unfold numbered at h
  repeat' split at h
  all_goals simp only [reduceCtorEq, Except.ok.injEq, Prod.mk.injEq] at h
  all_goals obtain ⟨-, rfl⟩ := h
  · exact Nat.le_trans (trailUnit_length ‹trailUnit _ = _›) (hexUnit_length ‹hexUnit _ = _›)
  · exact hexUnit_length ‹hexUnit _ = _›

theorem escape_length {s rest : List Char} {c : Char} (h : escape s = .ok (c, rest)) :
    rest.length < s.length := by
  unfold escape at h
  split at h
  · cases h
  · exact Nat.lt_succ_of_le (numbered_length h)
  · split at h <;> cases h
    simp

theorem element_length {s rest : List Char} {c : Option Char} (h : element s = .ok (c, rest)) :
    rest.length < s.length := by
  unfold element at h
  repeat' split at h
  all_goals cases h
  · simp
  · rename_i he
    have := escape_length he
    simp only [List.length_cons]
    omega
  · simp

def textBody (s : List Char) : Scan (List Char) :=
  match _h : element s with
  | .error e => .error e
  | .ok (none, rest) => .ok ([], rest)
  | .ok (some c, rest) =>
    match textBody rest with
    | .error e => .error e
    | .ok (cs, rest) => .ok (c :: cs, rest)
  termination_by s.length
  decreasing_by exact element_length _h

theorem textBody_length {s cs rest : List Char} (h : textBody s = .ok (cs, rest)) :
    rest.length < s.length := by
  fun_induction textBody s generalizing cs rest with
  | case1 => cases h
  | case2 s r he =>
    cases h
    exact element_length he
  | case3 => cases h
  | case4 s c r he ds r' ht ih =>
    cases h
    have := ih ht
    have := element_length he
    omega

def text (s : List Char) : Scan String :=
  match textBody s with
  | .error e => .error e
  | .ok (cs, rest) => .ok (String.ofList cs, rest)

theorem text_length {s rest : List Char} {t : String} (h : text s = .ok (t, rest)) :
    rest.length < s.length := by
  unfold text at h
  split at h
  · cases h
  · rename_i hb
    cases h
    exact textBody_length hb

end BenchJob.Json
