import BenchJob.Config
import BenchJob.Json.Scan.Brackets

/-!
# Stored configurations

A configuration is stored as a JSON document of one of two shapes: an object whose members are
fields, each at most once, or an array that gives the fields by their place. What is not given is
left open, and `null` leaves a text open too. Unknown keys are refused, so that a misspelt field
does not pass for an open one.

## Main definitions

- `Config.ofText?`: the configuration that a text stores.
-/

namespace BenchJob.Config

open Json (Scan Fault)

def assign (c : Config) (key : Key) (s : List Char) : Scan Config :=
  match key with
  | .text field =>
    match Json.optionalText s with
    | .error e => .error e
    | .ok (value, rest) => .ok (c.set field value, rest)
  | .benchArgs =>
    match Json.texts s with
    | .error e => .error e
    | .ok (args, rest) => .ok ({ c with benchArgs := args }, rest)

theorem assign_length {c d : Config} {key : Key} {s rest : List Char}
    (h : c.assign key s = .ok (d, rest)) : rest.length < s.length := by
  unfold assign at h
  repeat' split at h
  all_goals cases h
  · exact Json.optionalText_length ‹_›
  · exact Json.texts_length ‹_›

/-- A key that names a field which has not been given. -/
def checkKey (seen : List Key) (name : String) (rest : List Char) : Except Fault Key :=
  match Key.ofName? name with
  | none => .error (.here (.unknownKey name (Key.all.map Key.name)) (Json.afterKey rest))
  | some key =>
    if seen.contains key then .error (.here (.repeatedKey name) (Json.afterKey rest)) else .ok key

/-- The members of an object, behind its opening bracket or behind one of them. -/
def members (c : Config) (seen : List Key) (s : List Char) : Scan Config :=
  match _h : Json.nextKey seen.isEmpty s with
  | .error e => .error e
  | .ok (none, rest) => .ok (c, rest)
  | .ok (some name, rest) =>
    match checkKey seen name rest with
    | .error e => .error e
    | .ok key =>
      match _h' : Json.colon rest with
      | .error e => .error e
      | .ok ((), rest) =>
        match _h'' : c.assign key rest with
        | .error e => .error e
        | .ok (c, rest) => c.members (key :: seen) rest
  termination_by s.length
  decreasing_by
    have := Json.nextKey_length _h
    have := Json.colon_length _h'
    have := assign_length _h''
    omega

/-- The items of an array, behind its opening bracket or behind one of them, for the fields that
are left. -/
def items (c : Config) (first : Bool) : List Key → List Char → Scan Config
  | [], s =>
    match Json.closeArray s with
    | .error e => .error e
    | .ok ((), rest) => .ok (c, rest)
  | key :: keys, s =>
    match Json.nextItem first s with
    | .error e => .error e
    | .ok (false, rest) => .ok (c, rest)
    | .ok (true, item) =>
      match c.assign key item with
      | .error e => .error e
      | .ok (c, rest) => c.items false keys rest

def value (s : List Char) : Scan Config :=
  match Json.skip s with
  | '\x7b' :: rest => empty.members [] rest
  | '[' :: rest => empty.items true Key.all rest
  | s => .error (Json.refuse "struct StepConfig" s)

/-- The configuration that a text stores, with nothing but blanks around it. -/
def ofChars? (s : List Char) : Except Fault Config :=
  match value s with
  | .error e => .error e
  | .ok (c, rest) =>
    match Json.skip rest with
    | [] => .ok c
    | rest => .error (.atNext .trailingCharacters rest)

def ofText? (text : String) : Except Fault Config := ofChars? text.toList

end BenchJob.Config
