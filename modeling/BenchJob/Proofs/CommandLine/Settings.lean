import Mathlib.Data.List.TakeWhile
import BenchJob.CommandLine
import BenchJob.Proofs.Config.Document
import BenchJob.Proofs.Text.Utf8

/-!
# Settings on a command line

A setting is a flag with a value that it accepts. It is written as one word, with an equals sign
between the two, or as two words, if the value cannot be taken for an option. Storing a setting
changes its own flag and nothing else, and is refused only if the flag has a value already.

## Main definitions

- `Setting`: a flag with a value that it accepts.
- `Setting.Spelling`, `Spellings`: the words that write a setting, and several settings.
- `StepOptions.value?`: the value of a flag.
- `StepOptions.put`: a setting stored.

## Main statements

- `Word.ofBytes_eq_plain_iff`, `Word.ofBytes_eq_option_iff`: what the words of a setting are.
- `CommandLine.store_eq_ok_iff`: when a value can be stored, and what that comes to.
- `StepOptions.value?_put`, `StepOptions.eq_of_value?`: settings are known by their values.
-/

namespace BenchJob

open Text (Bytes)

/-! ## Words -/

namespace Word

def dashes : Bytes := [dash, dash]

def assigned : Option Bytes → Bytes
  | none => []
  | some value => equalsSign :: value

/-- The word is empty, a single dash, or does not start with a dash. -/
def IsPlain (word : Bytes) : Prop := word = [] ∨ word = [dash] ∨ word.head? ≠ some dash

variable {word name text : Bytes} {value : Option Bytes}

theorem ofBytes_eq_plain_iff : ofBytes word = .plain ↔ IsPlain word := by
  unfold IsPlain
  fun_cases ofBytes word <;> simp_all

theorem ofBytes_eq_terminator_iff : ofBytes word = .terminator ↔ word = dashes := by
  unfold dashes
  fun_cases ofBytes word <;> simp_all

/-- The name of an option ends in front of the first equals sign, and its value starts behind it. -/
theorem split_eq_iff :
    text.takeWhile (· != equalsSign) = name ∧ valueOf text = value ↔
      text = name ++ assigned value ∧ equalsSign ∉ name := by
  induction text generalizing name with
  | nil => cases value <;> cases name <;> simp [valueOf, assigned]
  | cons c rest ih =>
    by_cases split : c = equalsSign
    · cases name <;> cases value <;> simp_all [valueOf, assigned, eq_comm]
    · cases name with
      | nil => cases value <;> simp [assigned, split]
      | cons d name =>
        have behind : valueOf (c :: rest) = valueOf rest := by simp [valueOf, split]
        have next := @ih name
        simp only [List.takeWhile_cons, bne_iff_ne.2 split, if_true, behind]
        grind

/-- A word is the option of a name exactly if it is written like one. -/
theorem ofBytes_eq_option_iff : ofBytes word = .option name value ↔
    word = dashes ++ (name ++ assigned value) ∧ equalsSign ∉ name ∧ name ++ assigned value ≠ [] := by
  have option : ∀ {text : Bytes}, text ≠ [] → ofBytes (dashes ++ text) =
      .option (text.takeWhile (· != equalsSign)) (valueOf text) := by
    intro text nonempty
    simp [ofBytes, dashes, nonempty]
  constructor
  · intro h
    obtain ⟨text, nonempty, rfl⟩ : ∃ text, text ≠ [] ∧ word = dashes ++ text := by
      unfold dashes
      fun_cases ofBytes word <;> simp_all [ofBytes]
    rw [option nonempty, Word.option.injEq] at h
    obtain ⟨rfl, unsplit⟩ := split_eq_iff.1 h
    exact ⟨rfl, unsplit, nonempty⟩
  · rintro ⟨rfl, unsplit, nonempty⟩
    rw [option nonempty, Word.option.injEq]
    exact split_eq_iff.2 ⟨rfl, unsplit⟩

end Word

/-! ## Flags -/

namespace Flag

/-- The values that a flag accepts: a config file has to have a name, and anything else has to be
text. -/
def Accepts (value : Bytes) : Flag → Prop
  | .config => value ≠ []
  | .field _ => ∃ text, value = Text.encode text

def word (flag : Flag) : Bytes := Word.dashes ++ Text.encode flag.name

/-- The name of a flag can be the name of an option, and is not the one of the help page. -/
theorem name_cases (flag : Flag) : Word.equalsSign ∉ Text.encode flag.name ∧
    Text.encode flag.name ≠ [] ∧ CommandLine.isNamed (Text.encode flag.name) "help" = false := by
  cases flag with
  | config => decide +kernel
  | field f => cases f <;> decide +kernel

theorem find?_name (flag : Flag) :
    Flag.all.find? (fun other => Text.encode other.name == Text.encode flag.name) = some flag := by
  cases flag with
  | config => decide +kernel
  | field f => cases f <;> decide +kernel

end Flag

/-! ## Settings -/

structure Setting where
  flag : Flag
  value : Bytes
  accepted : flag.Accepts value

/-- The words that write a setting: one word with an equals sign, or two words if the value is
plain. -/
inductive Setting.Spelling (s : Setting) : List Bytes → Prop where
  | joined : Spelling s [s.flag.word ++ Word.assigned (some s.value)]
  | apart (plain : Word.IsPlain s.value) : Spelling s [s.flag.word, s.value]

inductive Spellings : List Setting → List Bytes → Prop where
  | nil : Spellings [] []
  | cons {s : Setting} {settings : List Setting} {words rest : List Bytes}
      (first : s.Spelling words) (others : Spellings settings rest) :
      Spellings (s :: settings) (words ++ rest)

namespace StepOptions

def value? (o : StepOptions) : Flag → Option Bytes
  | .config => o.configFile
  | .field f => (o.flags.get f).map Text.encode

def put (o : StepOptions) (s : Setting) : StepOptions :=
  match s.flag with
  | .config => { o with configFile := some s.value }
  | .field f => { o with flags := o.flags.set f (Text.decode? s.value) }

theorem has_eq (o : StepOptions) (flag : Flag) : o.has flag = (o.value? flag).isSome := by
  cases flag <;> simp [has, value?]

/-- A setting counts for its own flag and for no other one. -/
theorem value?_put (o : StepOptions) (s : Setting) (other : Flag) :
    (o.put s).value? other = if other = s.flag then some s.value else o.value? other := by
  obtain ⟨flag, value, accepted⟩ := s
  cases flag with
  | config => cases other <;> simp [put, value?]
  | field f =>
    obtain ⟨text, rfl⟩ := accepted
    have decoded : Text.decode? (Text.encode text) = some text := Text.decode?_eq_some_iff.2 rfl
    cases other with
    | config => simp [put, value?]
    | field g =>
      simp only [put, value?, Config.get_set, decoded, Flag.field.injEq]
      split <;> rfl

theorem benchArgs_put (o : StepOptions) (s : Setting) :
    (o.put s).flags.benchArgs = o.flags.benchArgs := by
  unfold put
  split
  · rfl
  · exact Config.benchArgs_set ..

/-- The settings of a command line are known by the values of its flags and by its arguments. -/
theorem eq_of_value? {o o' : StepOptions} (values : ∀ flag, o.value? flag = o'.value? flag)
    (args : o.flags.benchArgs = o'.flags.benchArgs) : o = o' := by
  have flags : o.flags = o'.flags := by
    refine Config.eq_of_get (fun field => ?_) args
    have injective : Function.Injective Text.encode :=
      Function.LeftInverse.injective Text.decodeLossy_encode
    exact Option.map_injective injective (values (.field field))
  have file : o.configFile = o'.configFile := values .config
  cases o
  cases o'
  simp_all

end StepOptions

namespace CommandLine

/-- A value is stored if the flag has none yet and accepts it. -/
theorem store_eq_ok_iff {o o' : StepOptions} {flag : Flag} {value : Bytes} :
    store o flag value = .ok o' ↔
      o.has flag = false ∧ ∃ accepted : flag.Accepts value, o' = o.put ⟨flag, value, accepted⟩ := by
  unfold store
  cases repeated : o.has flag with
  | true => simp
  | false =>
    cases flag with
    | config => cases value <;> simp [Flag.Accepts, StepOptions.put, eq_comm (a := o')]
    | field f =>
      cases decoded : Text.decode? value with
      | none =>
        have malformed : ∀ text, value ≠ Text.encode text := by
          intro text encoded
          rw [Text.decode?_eq_some_iff.2 encoded] at decoded
          cases decoded
        simp [Flag.Accepts, malformed]
      | some text =>
        have accepted : ∃ text, value = Text.encode text := ⟨text, Text.decode?_eq_some_iff.1 decoded⟩
        simp [Flag.Accepts, StepOptions.put, decoded, accepted, eq_comm (a := o')]

/-- Words are the texts of arguments if they are well formed. -/
theorem texts_eq_some_iff {words : List Bytes} {args : List String} :
    texts words = some args ↔ words = args.map Text.encode := by
  induction words generalizing args with
  | nil => cases args <;> simp [texts]
  | cons word rest ih =>
    have step : texts (word :: rest) = some args ↔
        ∃ text others, Text.decode? word = some text ∧ texts rest = some others ∧
          text :: others = args := by
      rw [texts]
      cases Text.decode? word <;> cases texts rest <;> simp
    simp only [step, ih, Text.decode?_eq_some_iff]
    constructor
    · rintro ⟨text, others, rfl, rfl, rfl⟩
      rfl
    · intro written
      cases args with
      | nil => cases written
      | cons text others =>
        obtain ⟨rfl, rfl⟩ := List.cons.inj written
        exact ⟨text, others, rfl, rfl, rfl⟩

end CommandLine

end BenchJob
