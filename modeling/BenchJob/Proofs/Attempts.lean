import BenchJob.Proofs.Execution

/-!
# Which programs are started, and when

A command makes at most two attempts to start a program: a question for the time of the commit, and
behind it the launch of the app. Which of the two it makes is settled by its layers alone, up to the
point where something fails; whatever fails, nothing is started behind it.

## Main definitions

- `Command.Asks`: a command asks for the time of the commit in a checkout.
- `Command.MayLaunch`: a request by which a command launches its app.
- `Orderly`: the attempts of a command, in order.
- `Telling`: what the result of a command tells of its attempts.

## Main statements

- `execute_attempts`: the attempts of every execution, and what its envelope tells of them.
-/

namespace BenchJob

/-- The layers resolve, results are kept, and `dir` is their checkout. -/
def Config.Asks (c : Config) (w : World) (dir : String) : Prop :=
  (∃ s, c.resolve w.home = .ok s) ∧ (∃ given, c.perfDataDir = some given ∧ given ≠ "") ∧
    dir = Path.expandHome w.home (c.repoDir.getD ".")

/-- The command asks for the time of the commit in a checkout. A run asks only if its output
directory is set. -/
def Command.Asks (w : World) (dir : String) : Command → Prop
  | .run o => ∃ c, o.layers w = .ok c ∧ c.Asks w dir ∧ c.outDir ≠ none
  | .plan o => ∃ c, o.layers w = .ok c ∧ c.Asks w dir
  | .overrides _ => False

def Command.MayLaunch (w : World) (r : Request) : Command → Prop
  | .run o => ∃ s b args, (settingsOf w o).result = .ok s ∧ s.localBuild = .ok b ∧
      r = b.request benchApp args
  | .plan _ | .overrides _ => False

/-- There is at most one question for the time of a commit, put exactly if the command asks, and then
at most one launch. -/
def Orderly (w : World) (c : Command) (attempts : List (Request × Except OsError Start)) : Prop :=
  ∃ questions launches, attempts = questions ++ launches ∧
    questions.length ≤ 1 ∧ launches.length ≤ 1 ∧
    (∀ a, a ∈ questions ↔ ∃ dir, c.Asks w dir ∧
      a.1 = ⟨"git", ["log", "-1", "--format=%ct"], some dir⟩ ∧ a.2 = w.started a.1) ∧
    ∀ a ∈ launches, c.MayLaunch w a.1

/-! ## Questions -/

section

variable {w : World} {o : StepOptions} {s : Settings}

theorem length_attempts_inquiry : (s.inquiry w).attempts.length ≤ 1 := by
  unfold Settings.inquiry
  split <;> simp

theorem mem_attempts_inquiry {a : Request × Except OsError Start} :
    a ∈ (s.inquiry w).attempts ↔ s.job.perfDataDir ≠ none ∧
      a = (Commit.request s.repoDir, w.started (Commit.request s.repoDir)) := by
  unfold Settings.inquiry
  cases s.job.perfDataDir <;> simp

/-- Layers that resolve ask in the checkout of their settings, if results are kept. -/
theorem Config.asks_iff {c : Config} {dir : String} (resolved : c.resolve w.home = .ok s) :
    c.Asks w dir ↔ s.job.perfDataDir ≠ none ∧ dir = s.repoDir := by
  obtain ⟨builder, revision, resourceDir, -, -, -, -, -, rfl⟩ := resolve_eq_ok_iff.1 resolved
  have kept : (∃ given, c.perfDataDir = some given ∧ given ≠ "") ↔ c.keptIn w.home ≠ none :=
    keptIn_ne_none_iff.symm
  simp only [Asks, kept, resolved, Except.ok.injEq, exists_eq', true_and]
  rfl

theorem Command.asks_plan_iff {dir : String} (settings : (settingsOf w o).result = .ok s) :
    (Command.plan o).Asks w dir ↔ s.job.perfDataDir ≠ none ∧ dir = s.repoDir := by
  obtain ⟨c, layers, resolved⟩ := result_settingsOf_eq_ok_iff.1 settings
  simp only [Asks, layers, Except.ok.injEq, exists_eq_left', Config.asks_iff resolved]

theorem Command.asks_run_iff {dir : String} (settings : (settingsOf w o).result = .ok s) :
    (Command.run o).Asks w dir ↔
      (s.job.perfDataDir ≠ none ∧ dir = s.repoDir) ∧ s.outDir ≠ none := by
  obtain ⟨c, layers, resolved⟩ := result_settingsOf_eq_ok_iff.1 settings
  simp only [Asks, layers, Except.ok.injEq, exists_eq_left', Config.asks_iff resolved,
    Config.outDir_of_resolve resolved, ne_eq, Option.map_eq_none_iff]

/-- A command without settings asks for nothing. -/
theorem not_asks_of_unsettled {f : Failure} {dir : String}
    (unsettled : (settingsOf w o).result = .error f) :
    ¬ (Command.plan o).Asks w dir ∧ ¬ (Command.run o).Asks w dir := by
  have unresolved : ∀ c, o.layers w = .ok c → ¬ c.Asks w dir := by
    rintro c layers ⟨⟨s, resolved⟩, -⟩
    have settled := result_settingsOf_eq_ok_iff.2 ⟨c, layers, resolved⟩
    simp [unsettled] at settled
  constructor
  · rintro ⟨c, layers, asks⟩
    exact unresolved c layers asks
  · rintro ⟨c, layers, asks, -⟩
    exact unresolved c layers asks

end

/-! ## Order -/

/-- A command that asks for nothing and launches nothing attempts nothing. -/
theorem orderly_nil {w : World} {c : Command} (silent : ∀ dir, ¬ c.Asks w dir) :
    Orderly w c [] :=
  ⟨[], [], rfl, by simp, by simp, by simp [silent], by simp⟩

/-- A command that puts the question of its settings and then makes the attempts of a launch. -/
theorem orderly_inquiry {w : World} {c : Command} {s : Settings}
    {launches : List (Request × Except OsError Start)}
    (asks : ∀ dir, c.Asks w dir ↔ s.job.perfDataDir ≠ none ∧ dir = s.repoDir)
    (once : launches.length ≤ 1) (may : ∀ a ∈ launches, c.MayLaunch w a.1) :
    Orderly w c ((s.inquiry w).attempts ++ launches) := by
  refine ⟨_, launches, rfl, length_attempts_inquiry, once, fun a => ?_, may⟩
  rw [mem_attempts_inquiry]
  constructor
  · rintro ⟨kept, rfl⟩
    exact ⟨s.repoDir, (asks _).2 ⟨kept, rfl⟩, rfl, rfl⟩
  · rintro ⟨dir, asked, question, outcome⟩
    obtain ⟨kept, rfl⟩ := (asks _).1 asked
    refine ⟨kept, Prod.ext question ?_⟩
    rw [outcome, question]
    rfl

theorem orderly_plan (w : World) (o : StepOptions) :
    Orderly w (.plan o) (planJob w o).trace.attempts := by
  cases settings : (settingsOf w o).result with
  | error f =>
    rw [(planJob_of_unsettled settings).trace_eq, attempts_trace_settingsOf]
    exact orderly_nil fun dir => (not_asks_of_unsettled settings).1
  | ok s =>
    rw [(planJob_of_settled settings).trace_eq, Log.attempts_append, attempts_trace_settingsOf,
      List.nil_append, ← List.append_nil (s.inquiry w).attempts]
    exact orderly_inquiry (fun dir => Command.asks_plan_iff settings) (by simp) (by simp)

/-- Of the ways in which a run can go, those with a build put the question of the settings first and
make the attempts of the launch behind it. -/
theorem orderly_run {w : World} {o : StepOptions} {r : Except Failure RunReport} {t : Log}
    (course : RunCourse w o r t) : Orderly w (.run o) t.attempts := by
  -- With a build the output directory is set, and a run asks wherever its plan does.
  have built : ∀ {s b}, (settingsOf w o).result = .ok s → s.localBuild = .ok b →
      ∀ dir, (Command.run o).Asks w dir ↔ s.job.perfDataDir ≠ none ∧ dir = s.repoDir := by
    intro s b settings build dir
    have set : s.outDir ≠ none := by
      intro unset
      simp [Settings.localBuild, unset] at build
    simp [Command.asks_run_iff settings, set]
  have may : ∀ {s b i r t}, (settingsOf w o).result = .ok s → s.localBuild = .ok b →
      s.assembled w = .ok i → b.Launched w i.app i.args r t →
      t.attempts.length ≤ 1 ∧ ∀ a ∈ t.attempts, (Command.run o).MayLaunch w a.1 := by
    intro s b i r t settings build assembly launch
    rw [Settings.app_of_assembled assembly] at launch
    exact ⟨launch.attempts.1, fun a mem =>
      ⟨s, b, i.args, settings, build, launch.attempts.2 a mem⟩⟩
  cases course with
  | unsettled settings =>
    rw [attempts_trace_settingsOf]
    exact orderly_nil fun dir => (not_asks_of_unsettled settings).2
  | unbuilt settings build =>
    rw [attempts_trace_settingsOf]
    exact orderly_nil fun dir => by simp [Command.asks_run_iff settings, build]
  | @unassembled s b f settings build assembly =>
    rw [Log.attempts_append, attempts_trace_settingsOf, List.nil_append,
      ← List.append_nil (s.inquiry w).attempts]
    exact orderly_inquiry (built settings build) (by simp) (by simp)
  | unlaunched settings build assembly launch =>
    obtain ⟨once, launches⟩ := may settings build assembly launch
    simpa [attempts_trace_settingsOf] using orderly_inquiry (built settings build) once launches
  | finished settings build assembly launch =>
    obtain ⟨once, launches⟩ := may settings build assembly launch
    simpa [attempts_trace_settingsOf] using orderly_inquiry (built settings build) once launches

/-! ## Ends -/

def Command.launchCount : Command → Nat
  | .run _ => 1
  | .plan _ | .overrides _ => 0

/-- What the result of a command tells of its attempts. Success tells how many apps were launched;
a failure tells that none was, and with most codes that nothing was attempted. -/
structure Telling (c : Command) (r : Except Failure (Json × Int)) (t : Log) : Prop where
  of_ok : ∀ data, r = .ok data → t.launches.length = c.launchCount
  of_error : ∀ f, r = .error f → t.launches = [] ∧
    (t.attempts = [] ∨ f.code = .gitCommandFailed ∨ f.code = .ioError)

theorem telling_of_failure {c : Command} {f : Failure} {t : Log} (unlaunched : t.launches = [])
    (cause : t.attempts = [] ∨ f.code = .gitCommandFailed ∨ f.code = .ioError) :
    Telling c (.error f) t := by
  refine ⟨fun data h => (nomatch h), ?_⟩
  rintro _ ⟨⟩
  exact ⟨unlaunched, cause⟩

theorem telling_plan (w : World) (o : StepOptions) :
    Telling (.plan o) ((planJob w o).result.map fun report => (report.toJson, 0))
      (planJob w o).trace := by
  cases settings : (settingsOf w o).result with
  | error f =>
    rw [(planJob_of_unsettled settings).result_eq, (planJob_of_unsettled settings).trace_eq]
    exact telling_of_failure launches_trace_settingsOf (.inl (attempts_trace_settingsOf w o))
  | ok s =>
    rw [(planJob_of_settled settings).result_eq, (planJob_of_settled settings).trace_eq]
    cases assembly : s.assembled w with
    | error f =>
      exact telling_of_failure (by simp) (.inr (.inl (Settings.code_of_assembled assembly)))
    | ok i => exact ⟨fun data h => by simp [Command.launchCount], fun f h => (nomatch h)⟩

/-- Only behind the question of the settings and behind the launch can a run fail that has attempted
something. -/
theorem telling_run {w : World} {o : StepOptions} {r : Except Failure RunReport} {t : Log}
    (course : RunCourse w o r t) :
    Telling (.run o) (r.map fun report => (report.toJson, report.outcome.jobCode)) t := by
  cases course with
  | unsettled settings =>
    exact telling_of_failure (by simp) (.inl (attempts_trace_settingsOf w o))
  | unbuilt settings build =>
    exact telling_of_failure (by simp) (.inl (attempts_trace_settingsOf w o))
  | unassembled settings build assembly =>
    exact telling_of_failure (by simp) (.inr (.inl (Settings.code_of_assembled assembly)))
  | unlaunched settings build assembly launch =>
    obtain ⟨none, code, -⟩ := launch.of_error
    exact telling_of_failure (by simp [none]) (.inr (.inr code))
  | finished settings build assembly launch =>
    obtain ⟨started, p, -, -, once⟩ := launch.of_ok
    exact ⟨fun data h => by simp [once, Command.launchCount], fun f h => (nomatch h)⟩

/-- The attempts of a command are in order, and its result tells of them. -/
theorem data_leaves (w : World) (c : Command) :
    ∃ r t, (c.data w).Leaves r t ∧ Orderly w c t.attempts ∧ Telling c r t := by
  cases c with
  | run o =>
    obtain ⟨result, trace, course, run⟩ := runJob_leaves w o
    exact ⟨_, _, data_run_leaves run, orderly_run course, telling_run course⟩
  | plan o =>
    exact ⟨_, _, data_plan_leaves (planJob_self w o), orderly_plan w o, telling_plan w o⟩
  | overrides builder =>
    refine ⟨_, _, data_overrides_leaves w builder, orderly_nil fun dir => id, ?_⟩
    exact ⟨fun data h => rfl, fun f h => (nomatch h)⟩

namespace Telling

variable {c : Command} {r : Except Failure (Json × Int)} {t : Log}

/-- A failure whose code speaks of the settings comes before the first attempt. -/
theorem attempts_of_settings {f : Failure} (h : Telling c r t) (failed : r = .error f)
    (settings : "config.".toList <+: f.code.text.toList ∨
      "validation.".toList <+: f.code.text.toList) : t.attempts = [] := by
  obtain ⟨-, nothing | git | io⟩ := h.of_error f failed
  · exact nothing
  · rw [git] at settings
    exact absurd settings (by decide)
  · rw [io] at settings
    exact absurd settings (by decide)

/-- A command that launches no app if it succeeds launches none. -/
theorem launches_of_count (h : Telling c r t) (none : c.launchCount = 0) : t.launches = [] := by
  cases r with
  | ok data => exact List.eq_nil_of_length_eq_zero ((h.of_ok data rfl).trans none)
  | error f => exact (h.of_error f rfl).1

end Telling

/-- A list of the overrides attempts nothing. -/
theorem Orderly.attempts_overrides {w : World} {builder : Option String}
    {attempts : List (Request × Except OsError Start)}
    (h : Orderly w (.overrides builder) attempts) : attempts = [] := by
  obtain ⟨questions, launches, rfl, -, -, asked, may⟩ := h
  have unasked : questions = [] := by
    refine List.eq_nil_iff_forall_not_mem.2 fun a mem => ?_
    obtain ⟨dir, asks, -⟩ := (asked a).1 mem
    exact asks
  have unlaunched : launches = [] := List.eq_nil_iff_forall_not_mem.2 may
  rw [unasked, unlaunched, List.append_nil]

/-- The attempts of an execution are in order: a question exactly if the command asks, and then a
launch. Listing the overrides attempts nothing, and a plan launches nothing. A run launches its app
once if its envelope tells of success, and never otherwise. An envelope with a mistake in the
settings tells that nothing was attempted, and one without a commit that nothing was launched. -/
theorem execute_attempts (w : World) (sink : Sink) (c : Command) :
    Orderly w c (execute w sink c).log.attempts ∧
    (∀ builder, c = .overrides builder → (execute w sink c).log.attempts = []) ∧
    (∀ o, c = .plan o → (execute w sink c).log.launches = []) ∧
    (∀ o, c = .run o →
      ((execute w sink c).Succeeds ↔ ∃ started, (execute w sink c).log.launches = [started]) ∧
      (¬ (execute w sink c).Succeeds → (execute w sink c).log.launches = [])) ∧
    (∀ code, (execute w sink c).FailsWith code →
      "config.".toList <+: code.toList ∨ "validation.".toList <+: code.toList →
      (execute w sink c).log.attempts = []) ∧
    ((execute w sink c).FailsWith "git.command_failed" →
      (execute w sink c).log.launches = []) := by
  obtain ⟨r, t, leaves, orderly, tells⟩ := data_leaves w c
  obtain ⟨answer, log⟩ := execute_eq leaves sink
  have attempts : (execute w sink c).log.attempts = t.attempts := by simp [log]
  have launches : (execute w sink c).log.launches = t.launches := by simp [log]
  rw [attempts, launches]
  simp only [Execution.succeeds_iff answer, Execution.failsWith_iff answer]
  refine ⟨orderly, ?_, ?_, ?_, ?_, ?_⟩
  · rintro builder rfl
    exact orderly.attempts_overrides
  · rintro o rfl
    exact tells.launches_of_count rfl
  · rintro o rfl
    cases r with
    | ok data =>
      have once : t.launches.length = 1 := tells.of_ok data rfl
      simpa using List.length_eq_one_iff.1 once
    | error f =>
      have none : t.launches = [] := (tells.of_error f rfl).1
      simp [none]
  · rintro code ⟨f, failed, rfl⟩ settings
    exact tells.attempts_of_settings failed settings
  · rintro ⟨f, failed, -⟩
    exact (tells.of_error f failed).1

/-- The sample run launches its app and therefore succeeds; without the output directory it attempts
nothing. Its plan launches nothing. -/
theorem sample_execute_attempts :
    (execute Sample.machine .writable (.run Sample.options)).Succeeds ∧
      (execute Sample.machine .writable (.run Sample.unbuilt)).log.attempts = [] ∧
      (execute Sample.machine .closed (.plan Sample.options)).log.launches = [] ∧
      (execute Sample.machine .writable (.overrides (some "NexusS"))).log.attempts = [] := by
  refine ⟨?_, ?_, ?_, ?_⟩
  · obtain ⟨-, -, -, run, -⟩ := execute_attempts Sample.machine .writable (.run Sample.options)
    exact (run _ rfl).1.2 (List.length_eq_one_iff.1 Sample.length_launches)
  · obtain ⟨-, -, -, -, mistaken, -⟩ :=
      execute_attempts Sample.machine .writable (.run Sample.unbuilt)
    have settings : (settingsOf Sample.machine Sample.unbuilt).result = .ok _ :=
      result_settingsOf_eq_ok_iff.2 ⟨_, Sample.layers Sample.unbuilt.flags, rfl⟩
    obtain ⟨answer, -⟩ := execute_eq (data_run_leaves (runJob_of_unbuilt settings rfl)) .writable
    have fails : (execute Sample.machine .writable (.run Sample.unbuilt)).FailsWith
        "validation.missing_argument" := by
      exact (Execution.failsWith_iff answer).2 ⟨_, rfl, rfl⟩
    exact mistaken _ fails (by decide)
  · obtain ⟨-, -, plan, -⟩ := execute_attempts Sample.machine .closed (.plan Sample.options)
    exact plan _ rfl
  · obtain ⟨-, overrides, -⟩ :=
      execute_attempts Sample.machine .writable (.overrides (some "NexusS"))
    exact overrides _ rfl

end BenchJob
