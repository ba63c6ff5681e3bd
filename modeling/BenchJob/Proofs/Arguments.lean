import BenchJob.Proofs.Execution
import BenchJob.Proofs.Overrides

/-!
# What the app is given

The arguments of an app that is launched are a function of the two layers of the command line, of
the home directory and of the time that the version control program prints. The stages in between,
from the merged layers to the launch, neither lose nor repeat a field.

## Main definitions

- `effective`: the text of a field that counts.

## Main statements

- `args_of_launch`: the arguments that a launched app has received.
-/

namespace BenchJob

/-- The text of a field: the one that the flags give, or else the one in the config file. -/
def effective (file flags : Config) (field : Field) : Option String :=
  match flags.get field with
  | some value => some value
  | none => file.get field

theorem effective_eq_get_merge (file flags : Config) (field : Field) :
    effective file flags field = (file.merge flags).get field := by
  rw [Config.get_merge, effective]
  cases flags.get field <;> rfl

/-- An app that was launched has run and ended, with the arguments of its invocation. -/
theorem finished_of_launch {w : World} {o : StepOptions} {sink : Sink} {started : Start}
    (launched : started ∈ (execute w sink (.run o)).log.launches) :
    ∃ s i, (settingsOf w o).result = .ok s ∧ s.assembled w = .ok i ∧ started.args = i.args := by
  obtain ⟨result, trace, course, run⟩ := runJob_leaves w o
  obtain ⟨-, log⟩ := execute_eq (data_run_leaves run) sink
  rw [log, Log.launches_append, Log.launches_told, List.nil_append] at launched
  cases course with
  | unsettled settings => simp at launched
  | unbuilt settings build => simp at launched
  | unassembled settings build assembly => simp at launched
  | unlaunched settings build assembly launch =>
    obtain ⟨none, -⟩ := launch.of_error
    simp [none] at launched
  | @finished s b i outcome t settings build assembly launch =>
    obtain ⟨only, p, start, -, once⟩ := launch.of_ok
    have same : started = only := by simpa [once] using launched
    rw [same]
    exact ⟨s, i, settings, assembly, Files.args_of_start start⟩

/-- The arguments of a launched app: the resource directory, the files for the results if these are
kept, the flags of the builder's overrides, and the arguments of both layers. -/
theorem args_of_launch (w : World) (sink : Sink) (o : StepOptions) (file : Config)
    (loaded : (Config.loadOrDefault w (o.configFile.map Text.decodeLossy)).result = .ok file)
    (started : Start) (launched : started ∈ (execute w sink (.run o)).log.launches) :
    ∃ builder revision resourceDir resultFlags,
      effective file o.flags .builder = some builder ∧
      effective file o.flags .revision = some revision ∧
      effective file o.flags .resourceDir = some resourceDir ∧
      ((effective file o.flags .perfDataDir = none ∨
          effective file o.flags .perfDataDir = some "") ∧
          resultFlags = [] ∨
        ∃ perfDataDir perfDir seconds,
          effective file o.flags .perfDataDir = some perfDataDir ∧ perfDataDir ≠ "" ∧
          perfDir =
            (effective file o.flags .devicePerfDir).getD (Path.expandHome w.home perfDataDir) ∧
          Commit.Printed w (Path.expandHome w.home ((effective file o.flags .repoDir).getD "."))
            seconds ∧
          resultFlags = ["--timers", "wg",
            "--logFile", Path.join perfDir ("bench_" ++ revision ++ "_data"),
            "--outResultsFile", Path.join perfDir
              ("microbench_" ++ revision ++ "_" ++ Text.Integer.text seconds ++ ".json")]) ∧
      started.args = ["-i", resourceDir] ++ resultFlags ++
        (Override.table.filter fun e => e.fragment.toList <:+: builder.toList).flatMap (·.flags) ++
        file.benchArgs ++ o.flags.benchArgs := by
  obtain ⟨s, i, settings, assembly, args⟩ := finished_of_launch launched
  obtain ⟨c, layers, resolved⟩ := result_settingsOf_eq_ok_iff.1 settings
  obtain rfl : file.merge o.flags = c := by
    simpa [StepOptions.layers, loaded, Except.map] using layers
  obtain ⟨builder, revision, resourceDir, hb, hr, hd, -, -, rfl⟩ :=
    Config.resolve_eq_ok_iff.1 resolved
  simp only [effective_eq_get_merge, args]
  rcases Settings.assembled_eq_ok_iff.1 assembly with
    ⟨unkept, rfl⟩ | ⟨dir, seconds, kept, printed, rfl⟩
  · refine ⟨builder, revision, resourceDir, [], hb, hr, hd,
      .inl ⟨Config.keptIn_eq_none_iff.1 unkept, rfl⟩, ?_⟩
    simp [Job.assemble, Config.settings, Override.flagsFor_eq, Config.benchArgs_merge]
  · obtain ⟨given, set, nonempty, rfl⟩ := Config.keptIn_eq_some_iff.1 kept
    refine ⟨builder, revision, resourceDir, _, hb, hr, hd,
      .inr ⟨given, _, seconds, set, nonempty, rfl, printed, rfl⟩, ?_⟩
    have perfDir := Config.devicePerfDirectory_of_kept kept
    simp [Job.assemble, Job.recordingAt, Job.logFile, Job.resultsFile, Recording.flags, timingFlags,
      Config.settings, Override.flagsFor_eq, Config.benchArgs_merge, perfDir, Config.get]

/-- The sample run gives its app the override of the builder in the config file, and the arguments
of both layers. -/
theorem sample_args_of_launch :
    ∃ started resultFlags,
      started ∈ (execute Sample.machine .writable (.run Sample.options)).log.launches ∧
      started.args = ["-i", "/res"] ++ resultFlags ++ ["--config", "defaults", "MSAA4"] ++
        ["--repeat", "3"] ++ ["--verbose"] := by
  obtain ⟨started, only⟩ := List.length_eq_one_iff.1 Sample.length_launches
  have launched :
      started ∈ (execute Sample.machine .writable (.run Sample.options)).log.launches := by
    rw [only]
    exact List.mem_singleton_self started
  obtain ⟨builder, _, resourceDir, resultFlags, named, -, resources, -, args⟩ :=
    args_of_launch Sample.machine .writable Sample.options Sample.file Sample.loaded
      started launched
  have builder_eq : "Perf-Nexus4" = builder := Option.some.inj named
  have resources_eq : "/res" = resourceDir := Option.some.inj resources
  have flags : (Override.table.filter fun e => e.fragment.toList <:+: builder.toList).flatMap
      (·.flags) = ["--config", "defaults", "MSAA4"] := by
    rw [← builder_eq]
    decide +kernel
  refine ⟨started, resultFlags, launched, ?_⟩
  rw [args, flags, ← resources_eq]
  rfl

end BenchJob
