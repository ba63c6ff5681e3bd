import BenchJob.Proofs.Config.Stack
import BenchJob.Proofs.Path
import BenchJob.Proofs.Text.Blank

/-!
# What a configuration resolves to

Three texts have to be there, and two of them may not be blank. A text that is missing comes before one
that is blank: as long as any is missing, the missing ones are named and nothing is said about the
others. Once all are there, the first blank one is refused with the value that it has.

The settings have the texts of the device as they were given, and the paths of the host with the home
directory for a tilde at their start. So the home directory does not matter unless one of these paths
starts there.

## Main definitions

- `Config.Settles`: the settings say what the configuration says.

## Main statements

- `Config.resolve_of_missing`, `Config.resolve_of_complete`: what is checked, and in which order.
- `Config.settles_of_resolve`: what settings say.
- `Config.resolve_home_congr`: when the home directory does not matter.
- `Config.resolve_checked`: all of this for every configuration.
-/

namespace BenchJob

open BenchJob.Path (AtHome Expands)
open Text (IsBlanks)

namespace Config

/-- The settings say what the configuration says, on a machine with this home directory. -/
structure Settles (c : Config) (home : String) (s : Settings) : Prop where
  builder : c.builder = some s.job.builder
  revision : c.revision = some s.job.revision
  resourceDir : c.resourceDir = some s.job.resourceDir
  benchArgs : c.benchArgs = s.job.benchArgs
  /-- The configuration of the build is taken as it is, or else it is the usual one. -/
  configuration : s.configuration = c.configuration.getD "Release"
  /-- An empty text for the directory in which results are kept means that none are kept. -/
  unkept : s.job.perfDataDir = none ↔ c.perfDataDir = none ∨ c.perfDataDir = some ""
  kept : ∀ given, c.perfDataDir = some given → given ≠ "" →
    ∃ dir, s.job.perfDataDir = some dir ∧ Expands home given dir
  /-- The directory on the device is taken as it is, or else it is the one on the host. -/
  perfDir : s.job.perfDir = c.devicePerfDir.getD (s.job.perfDataDir.getD "")
  unbuilt : s.outDir = none ↔ c.outDir = none
  outDir : ∀ given, c.outDir = some given → ∃ dir, s.outDir = some dir ∧ Expands home given dir
  repoDir : Expands home (c.repoDir.getD ".") s.repoDir

variable {c : Config} {home : Option String} {builder revision resourceDir : String}

/-! ## Checks -/

/-- As long as a required text is missing, the missing ones are named. -/
theorem resolve_of_missing (h : c.builder = none ∨ c.revision = none ∨ c.resourceDir = none) :
    c.resolve home = .error (incomplete c.missing) := by
  have missing : c.missing ≠ [] := by
    intro complete
    obtain ⟨hb, hr, hd⟩ := missing_eq_nil_iff.1 complete
    rcases h with hb' | hr' | hd'
    · exact hb hb'
    · exact hr hr'
    · exact hd hd'
  exact (resolve_missing_iff.2 ⟨missing, rfl⟩).1

/-- The names of the missing texts are those of the open ones among the three, in this order. -/
theorem map_name_missing (c : Config) : c.missing.map Field.name =
    ([("builder_name", c.builder), ("got_revision", c.revision), ("resource_dir", c.resourceDir)].filter
      fun given => given.2.isNone).map (·.1) := by
  cases hb : c.builder <;> cases hr : c.revision <;> cases hd : c.resourceDir <;>
    simp [missing, required, get, hb, hr, hd, Field.name]

/-- Once all texts are there, the builder is looked at and then the revision. -/
theorem resolve_of_complete (hb : c.builder = some builder) (hr : c.revision = some revision)
    (hd : c.resourceDir = some resourceDir) : c.resolve home =
      if Text.isBlankText builder then .error (blank .builder builder)
      else if Text.isBlankText revision then .error (blank .revision revision)
      else .ok (c.settings home builder revision resourceDir) := by
  simp only [resolve, hb, hr, hd, checkText]
  cases Text.isBlankText builder <;> cases Text.isBlankText revision <;> rfl

/-- A configuration resolves exactly if it has the required texts and two of them are not blank. -/
theorem exists_resolve_iff : (∃ s, c.resolve home = .ok s) ↔ ∃ builder revision resourceDir,
    c.builder = some builder ∧ c.revision = some revision ∧ c.resourceDir = some resourceDir ∧
      (∃ ch ∈ builder.toList, Text.isBlank ch = false) ∧
      ∃ ch ∈ revision.toList, Text.isBlank ch = false := by
  simp only [resolve_eq_ok_iff, Text.isBlankText_eq_false_iff]
  constructor
  · rintro ⟨s, builder, revision, resourceDir, hb, hr, hd, hb', hr', -⟩
    exact ⟨builder, revision, resourceDir, hb, hr, hd, hb', hr'⟩
  · rintro ⟨builder, revision, resourceDir, hb, hr, hd, hb', hr'⟩
    exact ⟨_, builder, revision, resourceDir, hb, hr, hd, hb', hr', rfl⟩

/-! ## Settings -/

/-- Settings say what the configuration says that they come from. -/
theorem settles_of_resolve {home : String} (known : home ≠ "") {s : Settings}
    (h : c.resolve (some home) = .ok s) : c.Settles home s := by
  obtain ⟨builder, revision, resourceDir, hb, hr, hd, -, -, rfl⟩ := resolve_eq_ok_iff.1 h
  have expands := Path.expands_expandHome known
  exact
    { builder := hb
      revision := hr
      resourceDir := hd
      benchArgs := rfl
      configuration := rfl
      unkept := keptIn_eq_none_iff
      kept := fun given set nonempty =>
        ⟨_, keptIn_eq_some_iff.2 ⟨given, set, nonempty, rfl⟩, expands given⟩
      perfDir := by
        show c.devicePerfDirectory (some home) = _
        unfold devicePerfDirectory
        cases c.devicePerfDir <;> rfl
      unbuilt := by simp [settings]
      outDir := fun given set => ⟨_, by simp [settings, set], expands given⟩
      repoDir := expands _ }

/-- The home directory does not matter for paths that do not start there. -/
theorem map_expandHome_congr {path : Option String} (home home' : Option String)
    (other : ∀ given, path = some given → ¬ AtHome given) :
    path.map (Path.expandHome home) = path.map (Path.expandHome home') := by
  cases path with
  | none => rfl
  | some given =>
    have elsewhere := other given rfl
    simp only [Option.map_some, Path.expandHome_of_not_atHome _ elsewhere]

/-- The home directory does not matter if no path of the host starts there. -/
theorem resolve_home_congr (home home' : Option String)
    (other : ∀ given, c.perfDataDir = some given ∨ c.outDir = some given ∨ c.repoDir = some given →
      ¬ AtHome given) : c.resolve home = c.resolve home' := by
  have kept : c.keptIn home = c.keptIn home' := by
    refine map_expandHome_congr home home' fun given set => ?_
    exact other given (.inl (Option.filter_eq_some_iff.1 set).1)
  have outDir : c.outDir.map (Path.expandHome home) = c.outDir.map (Path.expandHome home') :=
    map_expandHome_congr home home' fun given set => other given (.inr (.inl set))
  have repoDir : ∀ home, Path.expandHome home (c.repoDir.getD defaultRepoDir) =
      c.repoDir.getD defaultRepoDir := by
    intro home
    apply Path.expandHome_of_not_atHome
    cases set : c.repoDir with
    | none => simp [defaultRepoDir, ← Path.startsAtHome_iff, Path.startsAtHome]
    | some given => exact other given (.inr (.inr set))
  have settings : ∀ builder revision resourceDir, c.settings home builder revision resourceDir =
      c.settings home' builder revision resourceDir := by
    intro builder revision resourceDir
    simp only [Config.settings, devicePerfDirectory, kept, outDir, repoDir]
  simp only [resolve, settings]

/-- A configuration resolves exactly if a builder, a revision and a resource directory are there and the
first two are not blank. If any of the three is missing, the missing ones are named in this order,
whatever the others are; otherwise the first blank one is refused and its value shown. The settings say
what the configuration says, with the home directory for the tilde at the start of a path of the host.
If none of these paths starts with one, the home directory does not matter. -/
theorem resolve_checked (c : Config) {home : String} (known : home ≠ "") :
    ((∃ s, c.resolve (some home) = .ok s) ↔ ∃ builder revision resourceDir,
      c.builder = some builder ∧ c.revision = some revision ∧ c.resourceDir = some resourceDir ∧
        (∃ ch ∈ builder.toList, Text.isBlank ch = false) ∧
        ∃ ch ∈ revision.toList, Text.isBlank ch = false) ∧
    (c.builder = none ∨ c.revision = none ∨ c.resourceDir = none →
      ∃ hint, c.resolve (some home) = .error ⟨.missingArgument, "Missing required argument",
        .obj [("args", .strings (([("builder_name", c.builder), ("got_revision", c.revision),
          ("resource_dir", c.resourceDir)].filter fun given => given.2.isNone).map (·.1)))],
        [hint]⟩) ∧
    (∀ builder revision resourceDir, c.builder = some builder → c.revision = some revision →
      c.resourceDir = some resourceDir →
      (IsBlanks builder.toList →
        c.resolve (some home) = .error ⟨.configInvalidValue, "Invalid configuration value",
          .obj [("key", .str "builder_name"), ("problem", .str "must not be empty"),
            ("value", .str builder)], []⟩) ∧
      (¬ IsBlanks builder.toList → IsBlanks revision.toList →
        c.resolve (some home) = .error ⟨.configInvalidValue, "Invalid configuration value",
          .obj [("key", .str "got_revision"), ("problem", .str "must not be empty"),
            ("value", .str revision)], []⟩)) ∧
    (∀ s, c.resolve (some home) = .ok s → c.Settles home s) ∧
    ∀ home', (∀ given, c.perfDataDir = some given ∨ c.outDir = some given ∨ c.repoDir = some given →
      ¬ AtHome given) → c.resolve home' = c.resolve (some home) := by
  refine ⟨exists_resolve_iff, ?_, ?_, fun s => settles_of_resolve known, ?_⟩
  · intro missing
    rw [resolve_of_missing missing, incomplete, map_name_missing]
    exact ⟨_, rfl⟩
  · intro builder revision resourceDir hb hr hd
    simp only [resolve_of_complete hb hr hd, ← Text.isBlankText_iff]
    constructor
    · intro blank
      rw [if_pos blank]
      rfl
    · intro visible blank
      rw [if_neg visible, if_pos blank]
      rfl
  · intro home' other
    exact resolve_home_congr home' (some home) other

end Config

def Sample.tilded : Config := { Config.empty with
  builder := some "~"
  revision := some "r1"
  resourceDir := some "~/res"
  perfDataDir := some "~/perf"
  outDir := some "~out" }

/-- The configuration with tildes resolves. Without a builder it does not, and then the builder is
missing, although the revision is blank. -/
theorem Config.sample_resolve_checked :
    (∃ s, Sample.tilded.resolve (some "/home/ci") = .ok s ∧ Sample.tilded.Settles "/home/ci" s) ∧
    ∃ hint, resolve (some "/home/ci") { Sample.tilded with builder := none, revision := some "\u3000" } =
      .error ⟨.missingArgument, "Missing required argument",
        .obj [("args", .strings ["builder_name"])], [hint]⟩ := by
  have known : "/home/ci" ≠ "" := by decide
  constructor
  · obtain ⟨resolves, -, -, settles, -⟩ := resolve_checked Sample.tilded known
    obtain ⟨s, resolved⟩ := resolves.2
      ⟨_, _, _, rfl, rfl, rfl, ⟨'~', by simp, rfl⟩, ⟨'r', by simp, rfl⟩⟩
    exact ⟨s, resolved, settles s resolved⟩
  · obtain ⟨-, missing, -⟩ :=
      resolve_checked { Sample.tilded with builder := none, revision := some "\u3000" } known
    exact missing (.inl rfl)

end BenchJob
