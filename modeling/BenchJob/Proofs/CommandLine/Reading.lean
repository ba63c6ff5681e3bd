import BenchJob.Proofs.CommandLine.Settings

/-!
# Command lines read

The reader of a command line keeps a flag whose value may still come, and settles it as late as it
can. What it comes to is nevertheless a plain matter of one setting behind another: words lead from
settings that are known to those of the whole command line, setting by setting, until nothing is
left or two dashes start the arguments.

What the reader does with the words that are left is described for a settled state and for one that
waits for a value.

## Main definitions

- `Reads`: how words lead from known settings to the settings of a whole command line.
- `CommandLine.Continues`: what a state of the reader does with the words that are left.

## Main statements

- `CommandLine.readOptions_of_reads`: words that lead to settings are read as these.
- `CommandLine.continues_of_readOptions`: nothing else is read.
- `CommandLine.stepOptions_eq_ok_iff`: the options of a job.
-/

namespace BenchJob

open Text (Bytes)

/-! ## Step by step -/

def StepOptions.withArgs (o : StepOptions) (args : List String) : StepOptions :=
  { o with flags := { o.flags with benchArgs := args } }

theorem StepOptions.withArgs_eq_self {o : StepOptions} {args : List String}
    (h : o.flags.benchArgs = args) : o.withArgs args = o := by
  subst h
  rfl

/-- The words lead from the settings that are known to those of the whole command line: by a setting
whose flag has no value yet, by arguments behind two dashes, or because nothing is left. -/
inductive Reads : StepOptions → List Bytes → StepOptions → Prop where
  | done (o : StepOptions) : Reads o [] o
  | args (o : StepOptions) (args : List String) :
      Reads o (Word.dashes :: args.map Text.encode) (o.withArgs args)
  | setting {o o' : StepOptions} {s : Setting} {words rest : List Bytes}
      (fresh : o.has s.flag = false) (spelled : s.Spelling words) (next : Reads (o.put s) rest o') :
      Reads o (words ++ rest) o'

namespace CommandLine

theorem ofBytes_word (flag : Flag) (value : Option Bytes) :
    Word.ofBytes (flag.word ++ Word.assigned value) = .option (Text.encode flag.name) value := by
  obtain ⟨unsplit, nonempty, -⟩ := flag.name_cases
  refine Word.ofBytes_eq_option_iff.2 ⟨?_, unsplit, ?_⟩
  · rw [Flag.word, List.append_assoc]
  · simp [nonempty]

/-- The commands that run or plan a job take all flags, and arguments for the app. -/
theorem flagOf?_eq_some_iff {topic : Topic} (all : topic.flags = Flag.all) {name : Bytes}
    {flag : Flag} : flagOf? topic name = some flag ↔ name = Text.encode flag.name := by
  unfold flagOf?
  rw [all]
  constructor
  · intro found
    exact (beq_iff_eq.1 (List.find?_some found :)).symm
  · rintro rfl
    exact flag.find?_name

section

variable {topic : Topic} {p : Partial} {o o' : StepOptions} {rest : List Bytes}

/-- An option settles the flag in front of it. -/
theorem readOptions_option (all : topic.flags = Flag.all) (settled : settle p = .ok o)
    (flag : Flag) (value : Option Bytes) :
    readOptions topic p ((flag.word ++ Word.assigned value) :: rest) = match value with
      | none => readOptions topic ⟨o, some ⟨flag, none⟩⟩ rest
      | some value =>
        match store o flag value with
        | .error stop => .error stop
        | .ok o => readOptions topic ⟨o, none⟩ rest := by
  obtain ⟨-, -, other⟩ := flag.name_cases
  rw [readOptions]
  simp only [ofBytes_word, other, (flagOf?_eq_some_iff all).2 rfl, settled]
  cases value <;> rfl

theorem readOptions_plain {word : Bytes} (plain : Word.IsPlain word) (flag : Flag) :
    readOptions topic ⟨o, some ⟨flag, none⟩⟩ (word :: rest) =
      readOptions topic ⟨o, some ⟨flag, some word⟩⟩ rest := by
  rw [readOptions]
  simp only [Word.ofBytes_eq_plain_iff.2 plain]

theorem readOptions_dashes :
    readOptions topic p (Word.dashes :: rest) = readArgs topic p rest := by
  rw [readOptions]
  simp only [Word.ofBytes_eq_terminator_iff.2 rfl]

theorem benchArgs_of_settle (settled : settle p = .ok o) :
    o.flags.benchArgs = p.options.flags.benchArgs := by
  unfold settle at settled
  split at settled
  · obtain rfl := Except.ok.inj settled
    rfl
  · cases settled
  · obtain ⟨-, accepted, rfl⟩ := store_eq_ok_iff.1 settled
    exact StepOptions.benchArgs_put ..

/-- Behind the two dashes the pending flag is settled, and all words are arguments. -/
theorem readArgs_eq_ok_iff (takes : takesArgs topic = true)
    (unset : p.options.flags.benchArgs = []) :
    readArgs topic p rest = .ok o' ↔
      ∃ o args, settle p = .ok o ∧ rest = args.map Text.encode ∧ o' = o.withArgs args := by
  cases rest with
  | nil =>
    have unchanged : ∀ o, settle p = .ok o → o.withArgs [] = o := fun o settled =>
      StepOptions.withArgs_eq_self ((benchArgs_of_settle settled).trans unset)
    constructor
    · intro settled
      exact ⟨o', [], settled, rfl, (unchanged o' settled).symm⟩
    · rintro ⟨o, args, settled, none, rfl⟩
      obtain rfl := List.map_eq_nil_iff.1 none.symm
      rw [readArgs, settled, unchanged o settled]
  | cons word rest =>
    simp only [readArgs, takes, if_true, ← texts_eq_some_iff]
    cases settle p with
    | error stop => simp
    | ok o => cases texts (word :: rest) <;> simp [StepOptions.withArgs, eq_comm]

/-- Words that lead from the settled state to other settings are read as these. -/
theorem readOptions_of_reads (all : topic.flags = Flag.all) (takes : takesArgs topic = true)
    {words : List Bytes} (reads : Reads o words o') (settled : settle p = .ok o)
    (unset : p.options.flags.benchArgs = []) : readOptions topic p words = .ok o' := by
  induction reads generalizing p with
  | done o => rw [readOptions, settled]
  | args o args =>
    rw [readOptions_dashes]
    exact (readArgs_eq_ok_iff takes unset).2 ⟨o, args, settled, rfl, rfl⟩
  | @setting o o' s words rest fresh spelled next ih =>
    have stored : store o s.flag s.value = .ok (o.put s) :=
      store_eq_ok_iff.2 ⟨fresh, s.accepted, rfl⟩
    have unset' : o.flags.benchArgs = [] := by rw [benchArgs_of_settle settled, unset]
    cases spelled with
    | joined =>
      rw [List.singleton_append, readOptions_option all settled]
      simp only [stored]
      apply ih rfl
      rw [o.benchArgs_put, unset']
    | apart plain =>
      have unassigned : s.flag.word = s.flag.word ++ Word.assigned none :=
        (List.append_nil _).symm
      rw [List.cons_append, List.singleton_append, unassigned, readOptions_option all settled,
        readOptions_plain plain]
      exact ih stored unset'

/-- What a state does with words that lead to other settings: a flag that waits for its value takes
the next word, and a settled state starts a setting. -/
def Continues (p : Partial) (words : List Bytes) (o' : StepOptions) : Prop :=
  match p.pending with
  | some ⟨flag, none⟩ => ∃ value rest o, words = value :: rest ∧ Word.IsPlain value ∧
      store p.options flag value = .ok o ∧ Reads o rest o'
  | _ => ∃ o, settle p = .ok o ∧ Reads o words o'

theorem continues_of_settled (settled : settle p = .ok o) {words : List Bytes}
    (reads : Reads o words o') : Continues p words o' := by
  unfold Continues
  split
  · rename_i flag waiting
    simp [settle, waiting] at settled
  · exact ⟨o, settled, reads⟩

/-- An option that is read has a flag, and settles the one in front of it. -/
theorem option_of_readOptions (all : topic.flags = Flag.all) {word name : Bytes}
    {value : Option Bytes} (kind : Word.ofBytes word = .option name value)
    (read : readOptions topic p (word :: rest) = .ok o') :
    ∃ (flag : Flag) (o : StepOptions),
      word = flag.word ++ Word.assigned value ∧ settle p = .ok o := by
  rw [readOptions] at read
  simp only [kind] at read
  split at read
  · cases read
  · split at read
    · cases read
    · rename_i flag found
      split at read
      · cases read
      · rename_i o settled
        obtain ⟨rfl, -, -⟩ := Word.ofBytes_eq_option_iff.1 kind
        obtain rfl := (flagOf?_eq_some_iff all).1 found
        exact ⟨flag, o, (List.append_assoc ..).symm, settled⟩

/-- A plain word that is read is the value of the flag that waits for one. -/
theorem plain_of_readOptions {word : Bytes} (kind : Word.ofBytes word = .plain)
    (read : readOptions topic p (word :: rest) = .ok o') :
    ∃ flag : Flag, p = ⟨p.options, some ⟨flag, none⟩⟩ := by
  rw [readOptions] at read
  simp only [kind] at read
  split at read
  · rename_i flag waiting
    exact ⟨flag, by rw [← waiting]⟩
  · cases read

/-- A cluster of switches is never read. -/
theorem readOptions_cluster {word letters : Bytes} (kind : Word.ofBytes word = .cluster letters) :
    readOptions topic p (word :: rest) ≠ .ok o' := by
  rw [readOptions]
  simp only [kind]
  split <;> simp

/-- What is read leads from the state to the settings that are read. The induction is on the words:
an option of its own leaves a state that waits, and its value is what the rest continues with. -/
theorem continues_of_readOptions (all : topic.flags = Flag.all) (takes : takesArgs topic = true)
    {words : List Bytes} (unset : p.options.flags.benchArgs = [])
    (read : readOptions topic p words = .ok o') : Continues p words o' := by
  induction words generalizing p with
  | nil =>
    rw [readOptions] at read
    exact continues_of_settled read (.done o')
  | cons word rest ih =>
    cases kind : Word.ofBytes word with
    | terminator =>
      obtain rfl := Word.ofBytes_eq_terminator_iff.1 kind
      rw [readOptions_dashes] at read
      obtain ⟨o, args, settled, rfl, rfl⟩ := (readArgs_eq_ok_iff takes unset).1 read
      exact continues_of_settled settled (.args o args)
    | option name value =>
      obtain ⟨flag, o, rfl, settled⟩ := option_of_readOptions all kind read
      have unset' : o.flags.benchArgs = [] := by rw [benchArgs_of_settle settled, unset]
      rw [readOptions_option all settled] at read
      refine continues_of_settled settled ?_
      cases value with
      | none =>
        -- The flag waits now, so that the rest is known to start with its value.
        obtain ⟨value, rest, o, rfl, plain, stored, reads⟩ := ih unset' read
        obtain ⟨fresh, accepted, rfl⟩ := store_eq_ok_iff.1 stored
        have spelled : Setting.Spelling ⟨flag, value, accepted⟩ [flag.word, value] := .apart plain
        rw [Word.assigned, List.append_nil]
        exact .setting fresh spelled reads
      | some value =>
        cases stored : store o flag value with
        | error stop => simp [stored] at read
        | ok next =>
          simp only [stored] at read
          obtain ⟨fresh, accepted, rfl⟩ := store_eq_ok_iff.1 stored
          have spelled : Setting.Spelling ⟨flag, value, accepted⟩ _ := .joined
          obtain ⟨_, same, reads⟩ := ih (by rw [o.benchArgs_put, unset']) read
          obtain rfl := Except.ok.inj same
          exact .setting fresh spelled reads
    | cluster letters => exact absurd read (readOptions_cluster kind)
    | plain =>
      obtain ⟨flag, waiting⟩ := plain_of_readOptions kind read
      have plain := Word.ofBytes_eq_plain_iff.1 kind
      rw [waiting] at read ⊢
      rw [readOptions_plain plain] at read
      obtain ⟨o, stored, reads⟩ := @ih ⟨p.options, some ⟨flag, some word⟩⟩ unset read
      exact ⟨word, rest, o, rfl, plain, stored, reads⟩

/-- The options of a job are read as the settings to which their words lead. -/
theorem stepOptions_eq_ok_iff (all : topic.flags = Flag.all) (takes : takesArgs topic = true)
    {words : List Bytes} : stepOptions topic words = .ok o' ↔ Reads .empty words o' := by
  constructor
  · intro read
    obtain ⟨o, settled, reads⟩ := continues_of_readOptions all takes rfl read
    obtain rfl := Except.ok.inj settled
    exact reads
  · intro reads
    exact readOptions_of_reads all takes reads rfl rfl

end

end CommandLine

end BenchJob
