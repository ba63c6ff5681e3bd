import BenchJob.Proofs.Execution

/-!
# What becomes of the app

A run launches its app at most once, and the app decides both the exit code that the run asks for
and what stands on standard output in front of the answer: the output of the version control program
is read by the job, and notices go to standard error.

## Main definitions

- `Log.apps`: the apps that were started.
- `Log.FromApps`: standard output holds what the apps wrote.
- `Command.Ended`: the ways in which a command can end.

## Main statements

- `execute_ended`: every execution ends in one of these ways.
- `stdout_execute`: what stands on standard output in front of the answer.
-/

namespace BenchJob

/-! ## The apps of a log -/

/-- The app that an attempt has started, if it was a launch and was not refused. -/
def World.appOf? (w : World) (attempt : Request × Except OsError Start) : Option Program :=
  if attempt.1.isLaunch then
    attempt.2.toOption.bind fun _ => (w.files.start attempt.1).toOption.map (·.2)
  else none

def Log.apps (log : Log) (w : World) : List Program := log.attempts.filterMap w.appOf?

/-- Standard output holds what the apps wrote, one behind the other, and nothing else. -/
def Log.FromApps (log : Log) (w : World) : Prop := log.stdout = (log.apps w).flatMap (·.stdout)

namespace Log

variable {w : World} {a b log : Log}

@[simp] theorem apps_append : (a ++ b).apps w = a.apps w ++ b.apps w := by
  simp [apps]

@[simp] theorem stdout_append : (a ++ b).stdout = a.stdout ++ b.stdout := rfl

theorem apps_of_attempts (h : log.attempts = []) : log.apps w = [] := by
  simp [apps, h]

@[simp] theorem apps_told (w v : World) (notices : List Notice) :
    (v.told notices).apps w = [] := rfl

@[simp] theorem apps_refused (w : World) (r : Request) (e : OsError) :
    (ofAttempt r (.error e)).apps w = [] := by
  simp [apps, World.appOf?, Except.toOption]

theorem fromApps_of_silent (output : log.stdout = []) (apps : log.apps w = []) :
    log.FromApps w := by
  simp [FromApps, output, apps]

@[simp] theorem fromApps_told (w v : World) (notices : List Notice) :
    (v.told notices).FromApps w :=
  fromApps_of_silent rfl rfl

theorem FromApps.append (ha : a.FromApps w) (hb : b.FromApps w) : (a ++ b).FromApps w := by
  unfold FromApps at ha hb ⊢
  rw [stdout_append, apps_append, List.flatMap_append, ha, hb]

end Log

/-! ## Launches -/

namespace LocalBuild

variable {b : LocalBuild} {w : World} {app : String} {args : List String} {t : Log}

/-- The trace of an app that is started and writes. -/
theorem apps_started {started : Start} {p : Program}
    (start : w.files.start (b.request app args) = .ok (started, p)) :
    (Log.ofAttempt (b.request app args) (.ok started) ++ .ofProgram p).apps w = [p] := by
  have launch : (b.request app args).isLaunch = true := rfl
  simp [Log.apps, World.appOf?, launch, start, Except.toOption]

namespace Launched

theorem apps_of_error {f : Failure} (h : b.Launched w app args (.error f) t) : t.apps w = [] := by
  cases h with
  | missing absent => rfl
  | refused present start => simp

theorem apps_of_ok {outcome : Outcome} (h : b.Launched w app args (.ok outcome) t) :
    ∃ p, t.apps w = [p] ∧ outcome = .ofExitCode p.ending.exitCode := by
  cases h with
  | @ended started p present start =>
    refine ⟨p, ?_, rfl⟩
    rw [Log.apps_append, Log.apps_append, apps_started start]
    simp

theorem fromApps {r : Except Failure Outcome} (h : b.Launched w app args r t) : t.FromApps w := by
  cases h with
  | missing absent => exact Log.fromApps_of_silent rfl rfl
  | refused present start =>
    exact (Log.fromApps_told w w _).append (Log.fromApps_of_silent rfl (Log.apps_refused w _ _))
  | @ended started p present start =>
    have written :
        (Log.ofAttempt (b.request app args) (.ok started) ++ .ofProgram p).FromApps w := by
      rw [Log.FromApps, apps_started start]
      simp [Log.ofAttempt, Log.ofProgram]
    exact (Log.fromApps_told w w _).append (written.append (Log.fromApps_told w w _))

end Launched

end LocalBuild

/-! ## Commands -/

section

variable {w : World} {o : StepOptions} {s : Settings}

@[simp] theorem apps_trace_settingsOf : (settingsOf w o).trace.apps w = [] :=
  Log.apps_of_attempts (attempts_trace_settingsOf w o)

theorem fromApps_trace_settingsOf : (settingsOf w o).trace.FromApps w := by
  rw [trace_settingsOf]
  exact Log.fromApps_told w w _

@[simp] theorem apps_inquiry : (s.inquiry w).apps w = [] := by
  unfold Settings.inquiry
  split <;> rfl

theorem fromApps_inquiry : (s.inquiry w).FromApps w := by
  refine Log.fromApps_of_silent ?_ apps_inquiry
  unfold Settings.inquiry
  split <;> rfl

end

/-- The ways in which a command can end: with a failure and without an app, with the exit code that
its app makes of it, or, if it is no run, with 0 and without an app. -/
inductive Command.Ended : Command → Except Failure (Json × Int) → List Program → Prop where
  | failed {c : Command} (f : Failure) : Ended c (.error f) []
  | ran {o : StepOptions} (data : Json) (p : Program) :
      Ended (.run o) (.ok (data, (Outcome.ofExitCode p.ending.exitCode).jobCode)) [p]
  | answered {c : Command} (data : Json) (other : ∀ o, c ≠ .run o) : Ended c (.ok (data, 0)) []

namespace RunCourse

variable {w : World} {o : StepOptions} {r : Except Failure RunReport} {t : Log}

theorem ended (course : RunCourse w o r t) :
    (Command.run o).Ended (r.map fun report => (report.toJson, report.outcome.jobCode))
      (t.apps w) := by
  cases course with
  | unsettled settings =>
    rw [apps_trace_settingsOf]
    exact .failed _
  | unbuilt settings build =>
    rw [apps_trace_settingsOf]
    exact .failed _
  | unassembled settings build assembly =>
    rw [Log.apps_append, apps_trace_settingsOf, apps_inquiry]
    exact .failed _
  | unlaunched settings build assembly launch =>
    simp only [Log.apps_append, apps_trace_settingsOf, apps_inquiry, Log.apps_told,
      launch.apps_of_error]
    exact .failed _
  | finished settings build assembly launch =>
    obtain ⟨p, only, rfl⟩ := launch.apps_of_ok
    simp only [Log.apps_append, apps_trace_settingsOf, apps_inquiry, Log.apps_told, only]
    exact .ran _ p

theorem fromApps (course : RunCourse w o r t) : t.FromApps w := by
  have notice : ∀ (s : Settings) (i : Invocation) (u : Log), u.FromApps w →
      ((settingsOf w o).trace ++
        (s.inquiry w ++ (w.told [s.job.overridesNotice i] ++ u))).FromApps w := by
    intro s i u launch
    exact fromApps_trace_settingsOf.append
      (fromApps_inquiry.append ((Log.fromApps_told w w _).append launch))
  cases course with
  | unsettled settings => exact fromApps_trace_settingsOf
  | unbuilt settings build => exact fromApps_trace_settingsOf
  | unassembled settings build assembly => exact fromApps_trace_settingsOf.append fromApps_inquiry
  | unlaunched settings build assembly launch => exact notice _ _ _ launch.fromApps
  | finished settings build assembly launch => exact notice _ _ _ launch.fromApps

end RunCourse

/-- A plan starts no app and asks for exit code 0. -/
theorem planJob_ended (w : World) (o : StepOptions) :
    ∃ r t, (planJob w o).Leaves r t ∧ t.FromApps w ∧
      (Command.plan o).Ended (r.map fun report => (report.toJson, 0)) (t.apps w) := by
  cases settings : (settingsOf w o).result with
  | error f =>
    refine ⟨_, _, planJob_of_unsettled settings, fromApps_trace_settingsOf, ?_⟩
    rw [apps_trace_settingsOf]
    exact .failed f
  | ok s =>
    refine ⟨_, _, planJob_of_settled settings,
      fromApps_trace_settingsOf.append fromApps_inquiry, ?_⟩
    rw [Log.apps_append, apps_trace_settingsOf, apps_inquiry]
    cases s.assembled w with
    | error f => exact .failed f
    | ok i => exact .answered _ (fun o => by simp)

/-- A command ends in one of these ways, and standard output holds what its app wrote. -/
theorem data_ended (w : World) (c : Command) :
    ∃ r t, (c.data w).Leaves r t ∧ t.FromApps w ∧ c.Ended r (t.apps w) := by
  cases c with
  | run o =>
    obtain ⟨r, t, course, run⟩ := runJob_leaves w o
    exact ⟨_, t, data_run_leaves run, course.fromApps, course.ended⟩
  | plan o =>
    obtain ⟨r, t, plan, output, ended⟩ := planJob_ended w o
    exact ⟨_, t, data_plan_leaves plan, output, ended⟩
  | overrides builder =>
    exact ⟨_, _, data_overrides_leaves w builder, Log.fromApps_of_silent rfl rfl,
      .answered _ (fun o => by simp)⟩

/-! ## Executions -/

/-- Every execution ends in one of these ways, with the answer that belongs to it. -/
theorem execute_ended (w : World) (sink : Sink) (c : Command) :
    ∃ r, (execute w sink c).answer = .ofResult r ∧ c.Ended r ((execute w sink c).log.apps w) := by
  obtain ⟨r, t, leaves, -, ended⟩ := data_ended w c
  obtain ⟨answer, log⟩ := execute_eq leaves sink
  refine ⟨r, answer, ?_⟩
  rwa [log, Log.apps_append, Log.apps_told, List.nil_append]

/-- In front of the answer stands what the app wrote. -/
theorem stdout_execute (w : World) (sink : Sink) (c : Command) :
    (execute w sink c).log.FromApps w := by
  obtain ⟨r, t, leaves, output, -⟩ := data_ended w c
  obtain ⟨-, log⟩ := execute_eq leaves sink
  rw [log]
  exact (Log.fromApps_told w w _).append output

end BenchJob
