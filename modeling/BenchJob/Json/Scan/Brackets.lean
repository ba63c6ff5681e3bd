import BenchJob.Json.Scan.Kind

/-!
# Arrays and objects in JSON text

Items are parted by commas, of which none may stand before the closing bracket. A reader of items is
asked for one after the other, and answers whether there is another one or the bracket was closed.

## Main definitions

- `nextItem`, `closeArray`: on to the next item of an array, or behind its last one.
- `nextKey`, `colon`: on to the next key of an object, and behind the colon.
- `texts`: an array of strings.
-/

namespace BenchJob.Json

/-- Is there another item in an array? If there is, the rest starts with it. -/
def nextItem (first : Bool) (s : List Char) : Scan Bool :=
  match skip s with
  | [] => .error (.atNext .endInArray [])
  | ']' :: rest => .ok (false, rest)
  | c :: rest =>
    if first then .ok (true, c :: rest)
    else if c = ',' then
      match skip rest with
      | [] => .error (.atNext .endInValue [])
      | ']' :: rest => .error (.atNext .trailingComma (']' :: rest))
      | item => .ok (true, item)
    else .error (.atNext .noCommaInArray (c :: rest))

/-- The end of an array that may hold no more items. -/
def closeArray (s : List Char) : Scan Unit :=
  match skip s with
  | [] => .error (.atNext .endInArray [])
  | ']' :: rest => .ok ((), rest)
  | ',' :: rest =>
    match skip rest with
    | ']' :: rest => .error (.atNext .trailingComma (']' :: rest))
    | rest => .error (.atNext .trailingCharacters rest)
  | rest => .error (.atNext .trailingCharacters rest)

def key : List Char → Scan (Option String)
  | '"' :: rest =>
    match text rest with
    | .error e => .error e
    | .ok (name, rest) => .ok (some name, rest)
  | s => .error (.atNext .noKey s)

/-- The next key of an object, or none at its closing bracket. -/
def nextKey (first : Bool) (s : List Char) : Scan (Option String) :=
  match skip s with
  | [] => .error (.atNext .endInObject [])
  | '\x7d' :: rest => .ok (none, rest)
  | c :: rest =>
    if first then key (c :: rest)
    else if c = ',' then
      match skip rest with
      | [] => .error (.atNext .endInValue [])
      | '\x7d' :: rest => .error (.atNext .trailingComma ('\x7d' :: rest))
      | rest => key rest
    else .error (.atNext .noCommaInObject (c :: rest))

def colon (s : List Char) : Scan Unit :=
  match skip s with
  | [] => .error (.atNext .endInObject [])
  | ':' :: rest => .ok ((), rest)
  | rest => .error (.atNext .noColon rest)

/-- Where a key is noticed that should not be there: behind the blanks that follow it and, if the
object is closed there, behind the bracket. -/
def afterKey (s : List Char) : List Char :=
  match skip s with
  | '\x7d' :: rest => rest
  | rest => rest

theorem nextItem_length {first more : Bool} {s rest : List Char}
    (h : nextItem first s = .ok (more, rest)) : rest.length ≤ s.length := by
  have hs := skip_length_le s
  unfold nextItem at h
  repeat' split at h
  all_goals simp only [reduceCtorEq, Except.ok.injEq, Prod.mk.injEq] at h
  all_goals obtain ⟨-, rfl⟩ := h
  · simp only [*, List.length_cons] at hs
    omega
  · simp only [*, List.length_cons] at hs ⊢
    exact hs
  · exact Nat.le_of_lt (skip_length_lt ‹_›)

theorem key_length {s rest : List Char} {name : Option String} (h : key s = .ok (name, rest)) :
    rest.length < s.length := by
  unfold key at h
  repeat' split at h
  all_goals simp only [reduceCtorEq, Except.ok.injEq, Prod.mk.injEq] at h
  obtain ⟨-, rfl⟩ := h
  exact Nat.lt_succ_of_lt (text_length ‹text _ = _›)

theorem nextKey_length {first : Bool} {s rest : List Char} {name : Option String}
    (h : nextKey first s = .ok (name, rest)) : rest.length < s.length := by
  have hs := skip_length_le s
  unfold nextKey at h
  repeat' split at h
  all_goals try simp only [reduceCtorEq, Except.ok.injEq, Prod.mk.injEq] at h
  · obtain ⟨-, rfl⟩ := h
    simp only [*, List.length_cons] at hs
    omega
  · have := key_length h
    simp only [*, List.length_cons] at hs this
    omega
  · exact Nat.lt_trans (key_length h) (skip_length_lt ‹_›)

theorem colon_length {s rest : List Char} {u : Unit} (h : colon s = .ok (u, rest)) :
    rest.length < s.length := by
  have hs := skip_length_le s
  unfold colon at h
  repeat' split at h
  all_goals simp only [reduceCtorEq, Except.ok.injEq, Prod.mk.injEq] at h
  obtain ⟨-, rfl⟩ := h
  simp only [*, List.length_cons] at hs
  omega

def textItems (first : Bool) (s : List Char) : Scan (List String) :=
  match _h : nextItem first s with
  | .error e => .error e
  | .ok (false, rest) => .ok ([], rest)
  | .ok (true, item) =>
    match _h' : textValue item with
    | .error e => .error e
    | .ok (t, rest) =>
      match textItems false rest with
      | .error e => .error e
      | .ok (ts, rest) => .ok (t :: ts, rest)
  termination_by s.length
  decreasing_by
    have := nextItem_length _h
    have := textValue_length _h'
    omega

def texts (s : List Char) : Scan (List String) :=
  match skip s with
  | '[' :: rest => textItems true rest
  | s => .error (refuse "a sequence" s)

theorem textItems_length {first : Bool} {s rest : List Char} {ts : List String}
    (h : textItems first s = .ok (ts, rest)) : rest.length ≤ s.length := by
  fun_induction textItems first s generalizing ts rest with
  | case1 => cases h
  | case2 => cases h; exact nextItem_length ‹_›
  | case3 => cases h
  | case4 => cases h
  | case5 first s item hi t r ht us r' hu ih =>
    cases h
    have := ih hu
    have := nextItem_length hi
    have := textValue_length ht
    omega

theorem texts_length {s rest : List Char} {ts : List String} (h : texts s = .ok (ts, rest)) :
    rest.length < s.length := by
  have hs := skip_length_le s
  unfold texts at h
  split at h
  · have := textItems_length h
    simp only [*, List.length_cons] at hs
    omega
  · cases h

end BenchJob.Json
