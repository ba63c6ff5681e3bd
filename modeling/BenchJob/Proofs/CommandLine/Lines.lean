import BenchJob.Proofs.CommandLine.Reading
import BenchJob.Proofs.Trace

/-!
# Command lines of jobs

Behind the name of a command that runs or plans a job stand settings, each of its flags at most
once, and perhaps two dashes with arguments behind them. Such a line is read as exactly these
settings and arguments, whatever the order of the settings and however each of them is written, and
no other command line is read as a command of this kind.

## Main definitions

- `StepLine`, `StepLine.Writes`: settings and arguments, and the words that write them.
- `StepOptions.Holds`: settings that are what a line says.

## Main statements

- `StepLine.reads_iff`: the words that are read write a line.
- `exists_of_ofWords`: a command line that is read starts with the name of its command.
- `ofWords_writes`: the command lines of jobs, and what they are read as.
-/

namespace BenchJob

open Text (Bytes)

/-! ## Whole lines -/

/-- No flag of the settings comes twice, and none of them has a value yet. -/
def StepOptions.Admits (o : StepOptions) (settings : List Setting) : Prop :=
  (settings.map (·.flag)).Nodup ∧ ∀ s ∈ settings, o.has s.flag = false

/-- Storing a setting takes its flag from the ones that may still be given. -/
theorem StepOptions.admits_cons_iff {o : StepOptions} {s : Setting} {settings : List Setting} :
    o.Admits (s :: settings) ↔ o.has s.flag = false ∧ (o.put s).Admits settings := by
  have free : ∀ t : Setting, (o.put s).has t.flag = false ↔
      t.flag ≠ s.flag ∧ o.has t.flag = false := by
    intro t
    rw [has_eq, has_eq, o.value?_put]
    by_cases same : t.flag = s.flag <;> simp [same]
  unfold Admits
  simp only [List.map_cons, List.nodup_cons, List.forall_mem_cons, free, forall_and]
  have absent : s.flag ∉ settings.map (·.flag) ↔ ∀ t ∈ settings, t.flag ≠ s.flag := by
    simp
  rw [absent]
  grind

/-- What is said to a job on its command line: settings, none of whose flags comes twice, and
arguments for the app. -/
structure StepLine where
  settings : List Setting
  args : List String
  once : (settings.map (·.flag)).Nodup

namespace StepLine

/-- The words write the line: its settings, and behind them two dashes and its arguments. The two
dashes may be missing if there are no arguments. -/
def Writes (line : StepLine) (words : List Bytes) : Prop :=
  ∃ front behind, words = front ++ behind ∧ Spellings line.settings front ∧
    (behind = Word.dashes :: line.args.map Text.encode ∨ behind = [] ∧ line.args = [])

def Gives (line : StepLine) (flag : Flag) (value : Bytes) : Prop :=
  ∃ s ∈ line.settings, s.flag = flag ∧ s.value = value

end StepLine

/-- The settings hold what the line says, and nothing else. -/
def StepOptions.Holds (o : StepOptions) (line : StepLine) : Prop :=
  (∀ flag value, o.value? flag = some value ↔ line.Gives flag value) ∧
    o.flags.benchArgs = line.args

variable {o o' : StepOptions} {settings : List Setting} {words : List Bytes}

/-- Words that lead on from known settings are settings that are admitted there, and perhaps
arguments. -/
theorem exists_of_reads (reads : Reads o words o') (unset : o.flags.benchArgs = []) :
    ∃ settings args front behind, words = front ++ behind ∧ Spellings settings front ∧
      (behind = Word.dashes :: args.map Text.encode ∨ behind = [] ∧ args = []) ∧
      o.Admits settings ∧ o' = (settings.foldl StepOptions.put o).withArgs args := by
  induction reads with
  | done o =>
    exact ⟨[], [], [], [], rfl, .nil, .inr ⟨rfl, rfl⟩, ⟨.nil, by simp⟩,
      (StepOptions.withArgs_eq_self unset).symm⟩
  | args o args => exact ⟨[], args, [], _, rfl, .nil, .inl rfl, ⟨.nil, by simp⟩, rfl⟩
  | @setting o o' s words rest fresh spelled next ih =>
    obtain ⟨settings, args, front, behind, rfl, written, ended, admitted, rfl⟩ :=
      ih (by rw [o.benchArgs_put, unset])
    exact ⟨s :: settings, args, words ++ front, behind, (List.append_assoc ..).symm,
      .cons spelled written, ended, StepOptions.admits_cons_iff.2 ⟨fresh, admitted⟩, rfl⟩

/-- Settings lead on from where they are admitted. -/
theorem reads_of_spellings {front behind : List Bytes} (written : Spellings settings front)
    (admitted : o.Admits settings) (ended : Reads (settings.foldl StepOptions.put o) behind o') :
    Reads o (front ++ behind) o' := by
  induction written generalizing o with
  | nil => exact ended
  | @cons s settings words rest spelled others ih =>
    obtain ⟨fresh, admitted⟩ := StepOptions.admits_cons_iff.1 admitted
    rw [List.append_assoc]
    exact .setting fresh spelled (ih admitted ended)

theorem benchArgs_foldl_put (settings : List Setting) (o : StepOptions) :
    (settings.foldl StepOptions.put o).flags.benchArgs = o.flags.benchArgs := by
  induction settings generalizing o with
  | nil => rfl
  | cons s settings ih => rw [List.foldl_cons, ih, o.benchArgs_put]

/-- Settings that are stored one by one all count, and leave other flags as they were. -/
theorem value?_foldl_put (admitted : o.Admits settings) {flag : Flag} {value : Bytes} :
    (settings.foldl StepOptions.put o).value? flag = some value ↔
      (∃ s ∈ settings, s.flag = flag ∧ s.value = value) ∨ o.value? flag = some value := by
  induction settings generalizing o with
  | nil => simp
  | cons s settings ih =>
    obtain ⟨fresh, admitted⟩ := StepOptions.admits_cons_iff.1 admitted
    rw [List.foldl_cons, ih admitted, o.value?_put]
    simp only [List.mem_cons, exists_eq_or_imp]
    rw [StepOptions.has_eq, Option.isSome_eq_false_iff, Option.isNone_iff_eq_none] at fresh
    by_cases own : flag = s.flag
    · subst own
      simp [fresh, or_comm]
    · simp [own, Ne.symm own]

theorem StepOptions.value?_withArgs (o : StepOptions) (args : List String) (flag : Flag) :
    (o.withArgs args).value? flag = o.value? flag := by
  cases flag with
  | config => rfl
  | field f => cases f <;> rfl

theorem StepOptions.value?_empty (flag : Flag) : StepOptions.empty.value? flag = none := by
  cases flag with
  | config => rfl
  | field f => cases f <;> rfl

namespace StepLine

variable {line : StepLine}

def options (line : StepLine) : StepOptions :=
  (line.settings.foldl StepOptions.put .empty).withArgs line.args

theorem admits_settings (line : StepLine) : StepOptions.empty.Admits line.settings := by
  refine ⟨line.once, fun s _ => ?_⟩
  rw [StepOptions.has_eq, StepOptions.value?_empty]
  rfl

theorem holds_options (line : StepLine) : line.options.Holds line := by
  refine ⟨fun flag value => ?_, rfl⟩
  rw [options, StepOptions.value?_withArgs, value?_foldl_put line.admits_settings,
    StepOptions.value?_empty]
  simp [Gives]

/-- What a line says is held by one record of settings only. -/
theorem holds_iff : o.Holds line ↔ o = line.options := by
  constructor
  · rintro ⟨values, args⟩
    obtain ⟨stored, storedArgs⟩ := line.holds_options
    refine StepOptions.eq_of_value? (fun flag => ?_) (args.trans storedArgs.symm)
    apply Option.ext
    intro value
    rw [values, stored]
  · rintro rfl
    exact line.holds_options

/-- The words that lead from nothing to other settings are those that write a line. -/
theorem reads_iff : Reads .empty words o ↔ ∃ line : StepLine, line.Writes words ∧ o.Holds line := by
  constructor
  · intro reads
    obtain ⟨settings, args, front, behind, rfl, written, ended, admitted, rfl⟩ :=
      exists_of_reads reads rfl
    exact ⟨⟨settings, args, admitted.1⟩, ⟨front, behind, rfl, written, ended⟩,
      holds_options ⟨settings, args, admitted.1⟩⟩
  · rintro ⟨line, ⟨front, behind, rfl, written, ended⟩, held⟩
    obtain rfl := holds_iff.1 held
    refine reads_of_spellings written line.admits_settings ?_
    rcases ended with rfl | ⟨rfl, none⟩
    · exact .args _ line.args
    · have unset : (line.settings.foldl StepOptions.put .empty).flags.benchArgs = [] :=
        benchArgs_foldl_put line.settings .empty
      rw [options, none, StepOptions.withArgs_eq_self unset]
      exact .done _

end StepLine

/-- Neither the word of a flag nor a plain value is the word that ends the options. -/
theorem dashes_notMem_of_spellings (written : Spellings settings words) : Word.dashes ∉ words := by
  have ended : Word.ofBytes Word.dashes = .terminator := rfl
  have flag : ∀ (flag : Flag) value, Word.dashes ≠ flag.word ++ Word.assigned value := by
    intro flag value same
    rw [same, CommandLine.ofBytes_word] at ended
    cases ended
  induction written with
  | nil => simp
  | @cons s settings words rest spelled others ih =>
    cases spelled with
    | joined => simpa [ih] using flag s.flag (some s.value)
    | apart plain =>
      have value : Word.dashes ≠ s.value := by
        intro same
        rw [same, Word.ofBytes_eq_plain_iff.2 plain] at ended
        cases ended
      have name : Word.dashes ≠ s.flag.word := by simpa [Word.assigned] using flag s.flag none
      simp [ih, value, name]

/-- The arguments of a line stand behind the first two dashes. -/
theorem StepLine.Writes.behind_dashes {line : StepLine} (writes : line.Writes words) :
    (words.dropWhile (· ≠ Word.dashes)).tail = line.args.map Text.encode := by
  obtain ⟨front, behind, rfl, written, ended⟩ := writes
  have options : ∀ word ∈ front, decide (word ≠ Word.dashes) = true := by
    intro word mem
    exact decide_eq_true fun same => dashes_notMem_of_spellings written (same ▸ mem)
  rw [List.dropWhile_append_of_pos options]
  rcases ended with rfl | ⟨rfl, none⟩
  · simp
  · simp [none]

/-! ## Commands -/

open CommandLine

theorem eq_of_commandOf? {word : Bytes} {topic : Topic} (h : commandOf? word = some topic) :
    word = Text.encode topic.name :=
  (beq_iff_eq.1 (List.find?_some h :)).symm

def Command.topic : Command → Topic
  | .run _ => .run
  | .plan _ => .plan
  | .overrides _ => .overrides

/-- A command line that is read starts with the name of its command. -/
theorem exists_of_ofWords {c : Command} (read : Command.ofWords words = .ok c) :
    ∃ rest, words = Text.encode c.topic.name :: rest := by
  cases words with
  | nil => cases read
  | cons word rest =>
    refine ⟨rest, congrArg (· :: rest) ?_⟩
    suffices named : commandOf? word = some c.topic from eq_of_commandOf? named
    rw [Command.ofWords] at read
    split at read
    · cases read
    · cases read
    · cases read
    · split at read
      · obtain ⟨o, -, rfl⟩ := ok_of_map_eq_ok read
        assumption
      · obtain ⟨o, -, rfl⟩ := ok_of_map_eq_ok read
        assumption
      · obtain ⟨o, -, rfl⟩ := ok_of_map_eq_ok read
        assumption
      · cases read
      · cases read

theorem ofWords_run (rest : List Bytes) : Command.ofWords (Text.encode "run" :: rest) =
    (stepOptions .run rest).map .run := by
  have kind : Word.ofBytes (Text.encode "run") = .plain := by decide +kernel
  have named : commandOf? (Text.encode "run") = some .run := by decide +kernel
  rw [Command.ofWords]
  simp only [kind, named]

theorem ofWords_plan (rest : List Bytes) : Command.ofWords (Text.encode "plan" :: rest) =
    (stepOptions .plan rest).map .plan := by
  have kind : Word.ofBytes (Text.encode "plan") = .plain := by decide +kernel
  have named : commandOf? (Text.encode "plan") = some .plan := by decide +kernel
  rw [Command.ofWords]
  simp only [kind, named]

theorem stepOptions_eq_ok_iff_writes {topic : Topic} (all : topic.flags = Flag.all)
    (takes : takesArgs topic = true) :
    stepOptions topic words = .ok o ↔ ∃ line : StepLine, line.Writes words ∧ o.Holds line :=
  (stepOptions_eq_ok_iff all takes).trans StepLine.reads_iff

/-- Behind the name of either command, the words are read as these settings. -/
def StepOptions.IsReadFrom (o : StepOptions) (words : List Bytes) : Prop :=
  Command.ofWords (Text.encode "run" :: words) = .ok (.run o) ∧
    Command.ofWords (Text.encode "plan" :: words) = .ok (.plan o)

theorem StepOptions.Holds.isReadFrom {line : StepLine} (holds : o.Holds line)
    (written : line.Writes words) : o.IsReadFrom words := by
  have read : ∀ {topic : Topic}, topic.flags = Flag.all → takesArgs topic = true →
      stepOptions topic words = .ok o := fun all takes =>
    (stepOptions_eq_ok_iff_writes all takes).2 ⟨line, written, holds⟩
  constructor
  · rw [ofWords_run, read rfl rfl]
    rfl
  · rw [ofWords_plan, read rfl rfl]
    rfl

/-- The command lines that run or plan a job are the name of the command with a line behind it. Each
of them is read as what its line says: the values of its settings, in whatever order and form they
are written, and as arguments the texts behind the first two dashes. Lines with the same settings
differ in nothing but their arguments. -/
theorem ofWords_writes :
    (∀ (line : StepLine) (words : List Bytes), line.Writes words →
      ∃ o : StepOptions, o.Holds line ∧ o.IsReadFrom words) ∧
    (∀ (words : List Bytes) (o : StepOptions), Command.ofWords words = .ok (.run o) →
      ∃ (line : StepLine) (rest : List Bytes),
        words = Text.encode "run" :: rest ∧ line.Writes rest ∧ o.Holds line) ∧
    (∀ (words : List Bytes) (o : StepOptions), Command.ofWords words = .ok (.plan o) →
      ∃ (line : StepLine) (rest : List Bytes),
        words = Text.encode "plan" :: rest ∧ line.Writes rest ∧ o.Holds line) ∧
    (∀ (line : StepLine) (words : List Bytes), line.Writes words →
      (words.dropWhile (· ≠ Word.dashes)).tail = line.args.map Text.encode) ∧
    ∀ (line other : StepLine) (words words' : List Bytes),
      line.Writes words → other.Writes words' →
      (∀ flag value, line.Gives flag value ↔ other.Gives flag value) → ∃ o : StepOptions,
        (o.withArgs line.args).IsReadFrom words ∧ (o.withArgs other.args).IsReadFrom words' := by
  refine ⟨?_, ?_, ?_, fun line words => StepLine.Writes.behind_dashes, ?_⟩
  · intro line words written
    exact ⟨line.options, line.holds_options, line.holds_options.isReadFrom written⟩
  · intro words o read
    obtain ⟨rest, rfl⟩ := exists_of_ofWords read
    obtain ⟨o', options, same⟩ := ok_of_map_eq_ok ((ofWords_run rest).symm.trans read)
    obtain rfl := Command.run.inj same
    obtain ⟨line, written, holds⟩ := (stepOptions_eq_ok_iff_writes rfl rfl).1 options
    exact ⟨line, rest, rfl, written, holds⟩
  · intro words o read
    obtain ⟨rest, rfl⟩ := exists_of_ofWords read
    obtain ⟨o', options, same⟩ := ok_of_map_eq_ok ((ofWords_plan rest).symm.trans read)
    obtain rfl := Command.plan.inj same
    obtain ⟨line, written, holds⟩ := (stepOptions_eq_ok_iff_writes rfl rfl).1 options
    exact ⟨line, rest, rfl, written, holds⟩
  · intro line other words words' written written' same
    have swapped : (line.options.withArgs other.args).Holds other := by
      refine ⟨fun flag value => ?_, rfl⟩
      rw [StepOptions.value?_withArgs, line.holds_options.1, same]
    have own : line.options.withArgs line.args = line.options :=
      StepOptions.withArgs_eq_self line.holds_options.2
    refine ⟨line.options, ?_, swapped.isReadFrom written'⟩
    rw [own]
    exact line.holds_options.isReadFrom written

/-- A line with an equals sign in a value, with an empty value, with a value that looks like the end
of the options, and with arguments that look like options. -/
def Sample.line : StepLine where
  settings :=
    [⟨.config, Text.encode "=a", List.cons_ne_nil _ _⟩, ⟨.field .builder, Text.encode "", "", rfl⟩,
     ⟨.field .outDir, Text.encode "--", "--", rfl⟩]
  args := ["--", "-h"]
  once := by decide

/-- The sample line is read as what it says. -/
theorem sample_ofWords_writes : ∃ o : StepOptions, o.Holds Sample.line ∧
    Command.ofWords (["plan", "--config", "=a", "--builder-name", "", "--out-dir=--", "--", "--",
      "-h"].map Text.encode) = .ok (.plan o) := by
  have written : Sample.line.Writes (["--config", "=a", "--builder-name", "", "--out-dir=--", "--",
      "--", "-h"].map Text.encode) :=
    ⟨_, _, by decide +kernel, .cons (.apart (.inr (.inr (by decide)))) (.cons (.apart (.inl rfl))
      (.cons .joined .nil)), .inl rfl⟩
  obtain ⟨lines, -⟩ := ofWords_writes
  obtain ⟨o, holds, -, read⟩ := lines Sample.line _ written
  exact ⟨o, holds, read⟩

end BenchJob
