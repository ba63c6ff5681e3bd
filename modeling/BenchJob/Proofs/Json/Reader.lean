import BenchJob.Json.Scan.Brackets
import BenchJob.Json.Value
import BenchJob.Proofs.Json.Numbers

/-!
# A reader of any JSON text

The job reads no JSON but its config file, of which it knows the keys. Whoever reads what the job
prints reads any JSON text: every literal, string and number of the grammar, arrays and objects of
any depth, blanks between all tokens. What is read is kept as it stands, so members keep their order
and a key may stand in an object several times.

The reader goes along the text with the arrays and objects that are open around it. It takes a value
and goes on behind it in the innermost of them; once none is open, nothing but blanks may follow.

## Main definitions

- `Reading`: what a JSON text is read as.
- `Reading.ofJson`: the reading of a value without fractions.
- `Opened`: an array or an object that is read only in part.
- `Reader.value` and the like: the reader, with what is open around its place.
- `read?`: the reading of a text, if it is JSON text.
-/

namespace BenchJob.Json

/-! ## Readings -/

/-- What a JSON text is read as: numbers of any size, members in the order in which they stand. -/
inductive Reading where
  | null
  | bool (value : Bool)
  | number (value : Rat)
  | str (value : String)
  | arr (items : List Reading)
  | obj (members : List (String × Reading))
  deriving Repr, BEq

mutual

def Reading.ofJson : Json → Reading
  | .null => .null
  | .bool b => .bool b
  | .int n => .number n
  | .str s => .str s
  | .arr items => .arr (ofItems items)
  | .obj members => .obj (ofMembers members)

def Reading.ofItems : List Json → List Reading
  | [] => []
  | item :: rest => ofJson item :: ofItems rest

def Reading.ofMembers : List (String × Json) → List (String × Reading)
  | [] => []
  | (key, value) :: rest => (key, ofJson value) :: ofMembers rest

end

theorem Reading.ofItems_eq_map (items : List Json) : ofItems items = items.map ofJson := by
  induction items with
  | nil => rfl
  | cons item rest ih => rw [ofItems, ih, List.map_cons]

theorem Reading.ofMembers_append (a b : List (String × Json)) :
    ofMembers (a ++ b) = ofMembers a ++ ofMembers b := by
  induction a with
  | nil => rfl
  | cons member rest ih => simp [ofMembers, ih]

/-! ## Starts of values -/

/-- What a value starts with: all of it, or a bracket. -/
inductive Start where
  | whole (value : Reading)
  | array
  | object

def wordStart (word : List Char) (value : Reading) (s : List Char) : Scan Start :=
  match literal word s with
  | .error e => .error e
  | .ok ((), rest) => .ok (.whole value, rest)

def start : List Char → Scan Start
  | 'n' :: rest => wordStart ['u', 'l', 'l'] .null rest
  | 't' :: rest => wordStart ['r', 'u', 'e'] (.bool true) rest
  | 'f' :: rest => wordStart ['a', 'l', 's', 'e'] (.bool false) rest
  | '"' :: rest =>
    match text rest with
    | .error e => .error e
    | .ok (t, rest) => .ok (.whole (.str t), rest)
  | '[' :: rest => .ok (.array, rest)
  | '\x7b' :: rest => .ok (.object, rest)
  | s =>
    match numeral s with
    | .error e => .error e
    | .ok (x, rest) => .ok (.whole (.number x.exact), rest)

theorem wordStart_length {word s rest : List Char} {value : Reading} {t : Start}
    (h : wordStart word value s = .ok (t, rest)) : rest.length ≤ s.length := by
  unfold wordStart at h
  split at h
  · cases h
  · cases h
    exact literal_length ‹literal _ _ = _›

theorem start_length {s rest : List Char} {t : Start} (h : start s = .ok (t, rest)) :
    rest.length < s.length := by
  unfold start at h
  split at h
  · exact Nat.lt_succ_of_le (wordStart_length h)
  · exact Nat.lt_succ_of_le (wordStart_length h)
  · exact Nat.lt_succ_of_le (wordStart_length h)
  · split at h <;> cases h
    exact Nat.lt_succ_of_lt (text_length ‹text _ = _›)
  · cases h
    exact Nat.lt_succ_self _
  · cases h
    exact Nat.lt_succ_self _
  · split at h <;> cases h
    exact numeral_length ‹numeral _ = _›

/-- The key of an object's next member, with the colon taken, or none at the closing bracket. -/
def nextMember (first : Bool) (s : List Char) : Scan (Option String) :=
  match nextKey first s with
  | .error e => .error e
  | .ok (none, rest) => .ok (none, rest)
  | .ok (some name, rest) =>
    match colon rest with
    | .error e => .error e
    | .ok ((), rest) => .ok (some name, rest)

theorem nextMember_length {first : Bool} {s rest : List Char} {name : Option String}
    (h : nextMember first s = .ok (name, rest)) : rest.length < s.length := by
  unfold nextMember at h
  split at h
  · cases h
  · cases h
    exact nextKey_length ‹_›
  · split at h <;> cases h
    exact Nat.lt_trans (colon_length ‹_›) (nextKey_length ‹_›)

theorem nextItem_length_of_close {first : Bool} {s rest : List Char}
    (h : nextItem first s = .ok (false, rest)) : rest.length < s.length := by
  have hs := skip_length_le s
  unfold nextItem at h
  repeat' split at h
  all_goals simp only [reduceCtorEq, Except.ok.injEq, Prod.mk.injEq, false_and] at h
  obtain ⟨-, rfl⟩ := h
  simp only [*, List.length_cons] at hs
  omega

/-! ## The reader -/

/-- An array or an object that is read only in part: the items or members in front, the last one
first, and the key whose value is still to come. -/
inductive Opened where
  | array (done : List Reading)
  | object (done : List (String × Reading)) (key : String)

namespace Reader

mutual

def value (around : List Opened) (s : List Char) : Option Reading :=
  match _h : start (skip s) with
  | .error _ => none
  | .ok (.whole t, rest) => resume around t rest
  | .ok (.array, rest) => items around [] true rest
  | .ok (.object, rest) => members around [] true rest
  termination_by (s.length, 0)
  decreasing_by
    all_goals
      have := start_length _h
      have := skip_length_le s
      exact Prod.Lex.left _ _ (by omega)

def items (around : List Opened) (done : List Reading) (first : Bool) (s : List Char) : Option Reading :=
  match _h : nextItem first s with
  | .error _ => none
  | .ok (true, rest) => value (.array done :: around) rest
  | .ok (false, rest) => resume around (.arr done.reverse) rest
  termination_by (s.length, 1)
  decreasing_by
    · exact Prod.Lex.right' _ (nextItem_length _h) Nat.zero_lt_one
    · exact Prod.Lex.left _ _ (nextItem_length_of_close _h)

def members (around : List Opened) (done : List (String × Reading)) (first : Bool) (s : List Char) :
    Option Reading :=
  match _h : nextMember first s with
  | .error _ => none
  | .ok (some key, rest) => value (.object done key :: around) rest
  | .ok (none, rest) => resume around (.obj done.reverse) rest
  termination_by (s.length, 1)
  decreasing_by all_goals exact Prod.Lex.left _ _ (nextMember_length _h)

/-- Go on behind a value, in what is open around it. -/
def resume (around : List Opened) (t : Reading) (s : List Char) : Option Reading :=
  match around with
  | [] => if skip s = [] then some t else none
  | .array done :: around => items around (t :: done) false s
  | .object done key :: around => members around ((key, t) :: done) false s
  termination_by (s.length, 2)

end

end Reader

def read? (s : String) : Option Reading := Reader.value [] s.toList

example : read? "[1, 25e-1, [ -0.0 ], \x7b \x7d ]" =
    some (.arr [.number 1, .number (5 / 2), .arr [.number 0], .obj []]) := by
  cbv

example : read? "[1, ]" = none := by
  cbv

end BenchJob.Json
