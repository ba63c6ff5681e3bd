import BenchJob.Proofs.Config.Layers
import BenchJob.Proofs.Host

/-!
# How a job goes

Planning and running a job begin alike: the settings are found, and the arguments of the app are put
together, with a question for the time of the commit if results are kept. A plan ends there. A run
needs a build before it asks, and then launches the app. The ways in which a run can go are listed
once, each with its result and its trace, and whatever holds of every run is read off that list.

## Main definitions

- `Settings.assembled`, `Settings.inquiry`: the arguments of a job, and the attempt made for them.
- `RunCourse`: the ways in which a run can go.

## Main statements

- `planJob_of_settled`: what a plan comes to.
- `runJob_leaves`: a run goes in one of these ways.
-/

namespace BenchJob

/-! ## Putting the arguments together -/

namespace Job

variable {j : Job} {a : Act Log Int}

/-- A job that keeps no results asks nobody. -/
theorem invocation_of_unkept (h : j.perfDataDir = none) (a : Act Log Int) :
    (j.invocation a).Leaves (.ok (j.assemble none)) .empty := by
  unfold invocation recording
  rw [h]
  exact (Act.Leaves.pure none).map j.assemble

/-- A job that keeps results asks once, and depends on the answer. -/
theorem invocation_of_kept {dir : String} {r : Except Failure Int} {t : Log}
    (h : j.perfDataDir = some dir) (asked : a.Leaves r t) :
    (j.invocation a).Leaves (r.map fun seconds => j.assemble (some (j.recordingAt seconds))) t := by
  unfold invocation recording
  rw [h]
  have answered := (asked.map fun seconds => some (j.recordingAt seconds)).map j.assemble
  cases r <;> exact answered

/-- Once the arguments are known, the overrides are announced and the app is launched. -/
theorem run_of_assembled {host : Host Log} {i : Invocation} {r : Except Failure Outcome}
    {t u v : Log} (assembly : (j.invocation host.commitTimestamp).Leaves (.ok i) t)
    (announced : Act.Leaves (liftM (host.announce (j.overridesNotice i))) (.ok ()) u)
    (launched : (host.launch i.app i.args).Leaves r v) :
    (j.run host).Leaves (r.map fun outcome => (i, outcome)) (t ++ (u ++ v)) :=
  assembly.bind_ok (announced.bind_ok (launched.map fun outcome => (i, outcome)))

end Job

namespace Settings

variable (s : Settings) (w : World)

def assembled : Except Failure Invocation :=
  match s.job.perfDataDir with
  | none => .ok (s.job.assemble none)
  | some _ =>
    (Commit.answer w s.repoDir).map fun seconds =>
      s.job.assemble (some (s.job.recordingAt seconds))

/-- The attempt that is made for the arguments, if results are kept. -/
def inquiry : Log :=
  match s.job.perfDataDir with
  | none => .empty
  | some _ => .ofAttempt (Commit.request s.repoDir) (w.started (Commit.request s.repoDir))

theorem invocation_leaves :
    (s.job.invocation (Commit.timestamp w s.repoDir)).Leaves (s.assembled w) (s.inquiry w) := by
  unfold assembled inquiry
  cases kept : s.job.perfDataDir with
  | none => exact Job.invocation_of_unkept kept _
  | some dir => exact Job.invocation_of_kept kept (Commit.timestamp_leaves w s.repoDir)

variable {s w}

/-- The arguments are known without a question, or with the time that was printed for it. -/
theorem assembled_eq_ok_iff {i : Invocation} :
    s.assembled w = .ok i ↔ s.job.perfDataDir = none ∧ i = s.job.assemble none ∨
      ∃ dir seconds, s.job.perfDataDir = some dir ∧ Commit.Printed w s.repoDir seconds ∧
        i = s.job.assemble (some (s.job.recordingAt seconds)) := by
  unfold assembled
  cases s.job.perfDataDir with
  | none => simp [eq_comm]
  | some dir =>
    simp only [← Commit.answer_eq_ok_iff]
    cases Commit.answer w s.repoDir <;> simp [Except.map, eq_comm]

theorem app_of_assembled {i : Invocation} (h : s.assembled w = .ok i) : i.app = benchApp := by
  rcases assembled_eq_ok_iff.1 h with ⟨-, rfl⟩ | ⟨_, _, -, -, rfl⟩ <;> rfl

/-- Only the question for the time of the commit can fail. -/
theorem code_of_assembled {f : Failure} (h : s.assembled w = .error f) :
    f.code = .gitCommandFailed := by
  unfold assembled at h
  cases kept : s.job.perfDataDir with
  | none => simp [kept] at h
  | some dir =>
    cases answered : Commit.answer w s.repoDir with
    | error g =>
      simp only [kept, answered, Except.map] at h
      cases h
      exact Commit.code_of_answer answered
    | ok seconds => simp [kept, answered, Except.map] at h

@[simp] theorem launches_inquiry (s : Settings) (w : World) : (s.inquiry w).launches = [] := by
  unfold inquiry
  split <;> rfl

variable (s)

def planReport (i : Invocation) : PlanReport :=
  ⟨s.job.builder, Shell.render (s.shownProgram i.app) i.args, i⟩

end Settings

/-! ## Plans -/

section

variable {w : World} {o : StepOptions}

theorem settingsOf_self :
    (settingsOf w o).Leaves (settingsOf w o).result (settingsOf w o).trace :=
  (settingsOf_leaves w o).self

@[simp] theorem launches_trace_settingsOf : (settingsOf w o).trace.launches = [] :=
  Log.launches_of_attempts (attempts_trace_settingsOf w o)

theorem planJob_of_unsettled {f : Failure} (settings : (settingsOf w o).result = .error f) :
    (planJob w o).Leaves (.error f) (settingsOf w o).trace := by
  have unsettled := settingsOf_self (w := w) (o := o)
  rw [settings] at unsettled
  exact unsettled.bind_error

/-- A plan puts the arguments together and does nothing else. -/
theorem planJob_of_settled {s : Settings} (settings : (settingsOf w o).result = .ok s) :
    (planJob w o).Leaves ((s.assembled w).map s.planReport)
      ((settingsOf w o).trace ++ s.inquiry w) := by
  have settled := settingsOf_self (w := w) (o := o)
  rw [settings] at settled
  refine settled.bind_ok ?_
  have assembly := s.invocation_leaves w
  cases h : s.assembled w with
  | error f =>
    rw [h] at assembly
    exact assembly.bind_error
  | ok i =>
    rw [h] at assembly
    rw [← Log.append_empty (s.inquiry w)]
    exact assembly.bind_ok (.pure _)

theorem planJob_self (w : World) (o : StepOptions) :
    (planJob w o).Leaves (planJob w o).result (planJob w o).trace := by
  cases settings : (settingsOf w o).result with
  | error f => exact (planJob_of_unsettled settings).self
  | ok s => exact (planJob_of_settled settings).self

end

/-! ## Runs -/

/-- The ways in which the run of a command line can go. -/
inductive RunCourse (w : World) (o : StepOptions) : Except Failure RunReport → Log → Prop where
  /-- There are no settings. -/
  | unsettled {f : Failure} (settings : (settingsOf w o).result = .error f) :
      RunCourse w o (.error f) (settingsOf w o).trace
  /-- The output directory is not known, and nobody is asked for anything. -/
  | unbuilt {s : Settings} (settings : (settingsOf w o).result = .ok s) (build : s.outDir = none) :
      RunCourse w o (.error (.missingArguments [Field.outDir.name])) (settingsOf w o).trace
  /-- The time of the commit is asked for and not found. -/
  | unassembled {s : Settings} {b : LocalBuild} {f : Failure}
      (settings : (settingsOf w o).result = .ok s) (build : s.localBuild = .ok b)
      (assembly : s.assembled w = .error f) :
      RunCourse w o (.error f) ((settingsOf w o).trace ++ s.inquiry w)
  /-- The launch of the app fails. -/
  | unlaunched {s : Settings} {b : LocalBuild} {i : Invocation} {f : Failure} {t : Log}
      (settings : (settingsOf w o).result = .ok s) (build : s.localBuild = .ok b)
      (assembly : s.assembled w = .ok i) (launch : b.Launched w i.app i.args (.error f) t) :
      RunCourse w o (.error f) ((settingsOf w o).trace ++
        (s.inquiry w ++ (w.told [s.job.overridesNotice i] ++ t)))
  /-- The app runs and ends. -/
  | finished {s : Settings} {b : LocalBuild} {i : Invocation} {outcome : Outcome} {t : Log}
      (settings : (settingsOf w o).result = .ok s) (build : s.localBuild = .ok b)
      (assembly : s.assembled w = .ok i) (launch : b.Launched w i.app i.args (.ok outcome) t) :
      RunCourse w o (.ok ⟨s.planReport i, outcome⟩) ((settingsOf w o).trace ++
        (s.inquiry w ++ (w.told [s.job.overridesNotice i] ++ t)))

theorem shownProgram_of_build {s : Settings} {b : LocalBuild} (build : s.localBuild = .ok b)
    (app : String) : s.shownProgram app = b.pathOf app := by
  simp [Settings.shownProgram, build]

/-- Without an output directory a run ends before anybody is asked for anything. -/
theorem runJob_of_unbuilt {w : World} {o : StepOptions} {s : Settings}
    (settings : (settingsOf w o).result = .ok s) (unset : s.outDir = none) :
    (runJob w o).Leaves (.error (.missingArguments [Field.outDir.name]))
      (settingsOf w o).trace := by
  have source := settingsOf_self (w := w) (o := o)
  rw [settings] at source
  have unbuilt : s.localBuild = .error (.missingArguments [Field.outDir.name]) := by
    simp [Settings.localBuild, unset]
  rw [← Log.append_empty (settingsOf w o).trace]
  exact source.bind_ok (.known_bind_error unbuilt)

/-- A run goes in one of these ways. -/
theorem runJob_leaves (w : World) (o : StepOptions) :
    ∃ result trace, RunCourse w o result trace ∧ (runJob w o).Leaves result trace := by
  have source := settingsOf_self (w := w) (o := o)
  cases settings : (settingsOf w o).result with
  | error f =>
    rw [settings] at source
    exact ⟨_, _, .unsettled settings, source.bind_error⟩
  | ok s =>
    rw [settings] at source
    cases outDir : s.outDir with
    | none => exact ⟨_, _, .unbuilt settings outDir, runJob_of_unbuilt settings outDir⟩
    | some dir =>
      have build : s.localBuild = .ok ⟨dir, s.configuration⟩ := by
        simp [Settings.localBuild, outDir]
      have assembly := s.invocation_leaves w
      cases assembled : s.assembled w with
      | error f =>
        rw [assembled] at assembly
        exact ⟨_, _, .unassembled settings build assembled,
          source.bind_ok (.known_bind_ok build (Act.Leaves.bind_error assembly.bind_error))⟩
      | ok i =>
        rw [assembled] at assembly
        obtain ⟨r, t, launch, launched⟩ :=
          LocalBuild.launch_leaves ⟨dir, s.configuration⟩ w i.app i.args
        have run : (s.job.run (s.host w ⟨dir, s.configuration⟩)).Leaves _ _ :=
          Job.run_of_assembled assembly (w.tell_leaves _) launched
        cases r with
        | error f =>
          exact ⟨_, _, .unlaunched settings build assembled launch,
            source.bind_ok (.known_bind_ok build run.bind_error)⟩
        | ok outcome =>
          refine ⟨_, _, .finished settings build assembled launch, ?_⟩
          refine source.bind_ok (.known_bind_ok build ?_)
          -- The plan looks for the build again, and finds the one that was launched.
          rw [Settings.planReport, shownProgram_of_build build]
          rw [← Log.append_empty (s.inquiry w ++ _)]
          exact run.bind_ok (.pure _)

/-! ## A sample machine -/

namespace Sample

/-- A machine with a version control program, an app that ends with 3, and a config file. -/
def machine : World where
  home := some "/home/ci"
  files := ⟨[("bin/git", .program ⟨Text.encode "1406721715\n", [], .exited 0⟩),
    ("/home/ci/out/Release/bench", .program ⟨Text.encode "done\n", [], .exited 3⟩),
    ("step.json", .plain (Text.encode
      "\x7b\"builder_name\": \"Perf-Nexus4\", \"bench_args\": [\"--repeat\", \"3\"]\x7d"))], []⟩
  terminal := true

def file : Config := { Config.empty with
  builder := some "Perf-Nexus4"
  benchArgs := ["--repeat", "3"] }

def options : StepOptions where
  configFile := some (Text.encode "step.json")
  flags := { Config.empty with
    revision := some "r1"
    resourceDir := some "/res"
    perfDataDir := some "~/perf"
    outDir := some "~/out"
    benchArgs := ["--verbose"] }

def unbuilt : StepOptions := ⟨options.configFile, { options.flags with outDir := none }⟩

theorem loaded :
    (Config.loadOrDefault machine (options.configFile.map Text.decodeLossy)).result = .ok file :=
  eq_ok_of_toOption (by decide +kernel)

theorem layers (flags : Config) :
    StepOptions.layers machine ⟨options.configFile, flags⟩ = .ok (file.merge flags) := by
  rw [StepOptions.layers, loaded]
  rfl

end Sample

end BenchJob
