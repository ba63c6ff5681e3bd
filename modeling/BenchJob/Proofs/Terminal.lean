import BenchJob.Proofs.Apps
import BenchJob.Proofs.Reports

/-!
# What a terminal changes

Notices are told at several places, each time only if standard error is a terminal. None of them
changes what a job does: two steps that run on the same machine, one with and one without a
terminal, come to the same result and leave logs that differ in standard error only. What stands on
standard error is determined, too: notices, then what the app wrote there, then at most one notice
on how the app ended. What the version control program wrote there is read by the job and not passed
on.

## Main definitions

- `World.withTerminal`: the machine with or without a terminal.
- `Act.Alike`: two steps that differ in standard error only.
- `Log.Speaks`: standard error holds notices, what the apps wrote, and notices.
- `Announces`: notices tell one command line, before the app.

## Main statements

- `Act.Alike.bind`, `data_alike`: a command with and without a terminal.
- `data_speaks`: what a command leaves on standard error.
- `execute_terminal`: what a terminal changes about an execution.
-/

namespace BenchJob

open Text (Bytes)

/-- The machine with or without a terminal on standard error. Its programs do not look at that. -/
def World.withTerminal (w : World) (terminal : Bool) : World := { w with terminal := terminal }

/-! ## Two steps -/

def Log.Alike (a b : Log) : Prop := a.attempts = b.attempts ∧ a.stdout = b.stdout

theorem Log.Alike.refl (a : Log) : a.Alike a := ⟨rfl, rfl⟩

theorem Log.Alike.append {a b c d : Log} (first : a.Alike b) (second : c.Alike d) :
    (a ++ c).Alike (b ++ d) := by
  constructor
  · rw [attempts_append, attempts_append, first.1, second.1]
  · rw [stdout_append, stdout_append, first.2, second.2]

theorem Log.alike_told (w v : World) (notices : List Notice) :
    (w.told notices).Alike (v.told notices) := ⟨rfl, rfl⟩

/-- Two steps come to the same result and leave logs that differ in standard error only. -/
def Act.Alike {α : Type} (a b : Act Log α) : Prop :=
  ∃ result t u, a.Leaves result t ∧ b.Leaves result u ∧ t.Alike u

namespace Act.Alike

variable {α β : Type} {a b : Act Log α} {f g : α → Act Log β}

theorem of_leaves {result : Except Failure α} {t : Log} (h : a.Leaves result t) : a.Alike a :=
  ⟨result, t, t, h, h, .refl t⟩

theorem pure (x : α) : Alike (Pure.pure x : Act Log α) (Pure.pure x) := of_leaves (.pure x)

theorem ofExcept (r : Except Failure α) : Alike (liftM r : Act Log α) (liftM r) :=
  of_leaves (.ofExcept r)

theorem tell (w v : World) (notice : Notice) :
    Act.Alike (liftM (w.tell notice)) (liftM (v.tell notice)) :=
  ⟨_, _, _, w.tell_leaves notice, v.tell_leaves notice, Log.alike_told w v _⟩

/-- Steps that are alike and are followed by such steps are alike. -/
theorem bind (first : a.Alike b) (next : ∀ x, (f x).Alike (g x)) : (a >>= f).Alike (b >>= g) := by
  obtain ⟨result, t, u, ha, hb, same⟩ := first
  cases result with
  | error e => exact ⟨_, _, _, ha.bind_error, hb.bind_error, same⟩
  | ok x =>
    obtain ⟨result', t', u', hf, hg, same'⟩ := next x
    exact ⟨_, _, _, ha.bind_ok hf, hb.bind_ok hg, same.append same'⟩

/-- What follows a failure is not reached. -/
theorem throw_bind (e : Failure) :
    Act.Alike (MonadExcept.throw e >>= f) (MonadExcept.throw e >>= g) :=
  ⟨_, _, _, (Leaves.throw e).bind_error, (Leaves.throw e).bind_error, .refl _⟩

end Act.Alike

/-! ## A command with and without a terminal -/

section

variable (w : World) (terminal : Bool)

@[simp] theorem World.home_withTerminal : (w.withTerminal terminal).home = w.home := rfl

theorem Log.apps_withTerminal (log : Log) : log.apps (w.withTerminal terminal) = log.apps w := rfl

@[simp] theorem Config.load_withTerminal (path : String) :
    load (w.withTerminal terminal) path = load w path := rfl

/-- The notice on the config file changes nothing about what is read. -/
theorem Config.loadOrDefault_alike (path : Option String) :
    (loadOrDefault w path).Alike (loadOrDefault (w.withTerminal terminal) path) := by
  unfold loadOrDefault
  cases path with
  | some path => exact .ofExcept (load w (Path.expandHome w.home path))
  | none =>
    rw [World.home_withTerminal]
    cases w.home with
    | none => exact .pure _
    | some home =>
      by_cases found : w.files.exists? (defaultPath home) = true
      -- The other machine's test is stated by itself, as its files are the same only by definition.
      · have stillFound : (w.withTerminal terminal).files.exists? (defaultPath home) = true := found
        simp only [if_pos found, if_pos stillFound, load_withTerminal]
        exact (Act.Alike.tell w _ _).bind fun _ => .ofExcept (load w (defaultPath home))
      · have stillMissing : ¬ (w.withTerminal terminal).files.exists? (defaultPath home) = true :=
          found
        simp only [if_neg found, if_neg stillMissing]
        exact .pure _

theorem settingsOf_alike (o : StepOptions) :
    (settingsOf w o).Alike (settingsOf (w.withTerminal terminal) o) :=
  (Config.loadOrDefault_alike w terminal _).bind fun _ => .ofExcept _

theorem Commit.timestamp_alike (dir : String) :
    (timestamp w dir).Alike (timestamp (w.withTerminal terminal) dir) :=
  .of_leaves (timestamp_leaves w dir)

theorem World.passThrough_alike (r : Request) (context : String) :
    (w.passThrough r context).Alike ((w.withTerminal terminal).passThrough r context) := by
  show (w.passThrough r context).Alike (w.passThrough r context)
  cases start : w.files.start r with
  | error e => exact .of_leaves (passThrough_refused start context)
  | ok found => exact .of_leaves (passThrough_started start context)

theorem LocalBuild.launch_alike (b : LocalBuild) (app : String) (args : List String) :
    (b.launch w app args).Alike (b.launch (w.withTerminal terminal) app args) := by
  unfold launch
  by_cases present : w.files.isFile (b.pathOf app) = true
  · have stillPresent : (w.withTerminal terminal).files.isFile (b.pathOf app) = true := present
    simp only [if_pos present, if_pos stillPresent]
    refine (Act.Alike.tell w _ _).bind fun _ => ?_
    refine (World.passThrough_alike w terminal _ app).bind fun code => ?_
    by_cases quiet : code = 0
    · simp only [quiet, ne_eq, not_true_eq_false, if_false]
      exact .pure _
    · simp only [quiet, ne_eq, not_false_eq_true, if_true]
      exact (Act.Alike.tell w _ _).bind fun _ => .pure _
  · have stillAbsent : ¬ (w.withTerminal terminal).files.isFile (b.pathOf app) = true := present
    simp only [if_neg present, if_neg stillAbsent]
    exact .throw_bind (b.missing app)

theorem Job.invocation_alike (j : Job) {a b : Act Log Int} (h : a.Alike b) :
    (j.invocation a).Alike (j.invocation b) := by
  unfold invocation recording
  cases j.perfDataDir with
  | none => exact .pure _
  | some dir => exact (h.bind fun _ => .pure _).bind fun _ => .pure _

theorem Job.run_alike (s : Settings) (build : LocalBuild) :
    (s.job.run (s.host w build)).Alike (s.job.run (s.host (w.withTerminal terminal) build)) := by
  refine (s.job.invocation_alike (Commit.timestamp_alike w terminal _)).bind fun i => ?_
  refine (Act.Alike.tell w _ _).bind fun _ => ?_
  exact (build.launch_alike w terminal _ _).bind fun _ => .pure _

theorem runJob_alike (o : StepOptions) :
    (runJob w o).Alike (runJob (w.withTerminal terminal) o) := by
  refine (settingsOf_alike w terminal o).bind fun s => ?_
  refine (Act.Alike.ofExcept s.localBuild).bind fun build => ?_
  exact (Job.run_alike w terminal s build).bind fun _ => .pure _

theorem planJob_alike (o : StepOptions) :
    (planJob w o).Alike (planJob (w.withTerminal terminal) o) := by
  refine (settingsOf_alike w terminal o).bind fun s => ?_
  exact (s.job.invocation_alike (Commit.timestamp_alike w terminal _)).bind fun _ => .pure _

/-- A command does the same with and without a terminal. -/
theorem data_alike (c : Command) : (c.data w).Alike (c.data (w.withTerminal terminal)) := by
  cases c with
  | run o => exact (runJob_alike w terminal o).bind fun _ => .pure _
  | plan o => exact (planJob_alike w terminal o).bind fun _ => .pure _
  | overrides builder => exact .pure _

end

/-! ## Standard error -/

def Notice.lines (notices : List Notice) : Bytes :=
  notices.flatMap fun notice => Text.encode (notice.line ++ "\n")

/-- A command line that is announced stands on a line of its own. -/
theorem Notice.exists_lines_of_starting {notices : List Notice} {commandLine : String}
    (h : .starting commandLine ∈ notices) : ∃ told other,
      notices = told ++ .starting commandLine :: other ∧
      lines notices =
        lines told ++ Text.encode ("[flavor] " ++ commandLine ++ "\n") ++ lines other := by
  obtain ⟨told, other, rfl⟩ := List.append_of_mem h
  refine ⟨told, other, rfl, ?_⟩
  have starting : (Notice.starting commandLine).line = "[flavor] " ++ commandLine := rfl
  simp only [lines, List.flatMap_append, List.flatMap_cons, List.append_assoc, starting]

/-- The command line that a notice announces, if it announces one. -/
def Notice.commandLine? : Notice → Option String
  | .starting commandLine => some commandLine
  | _ => none

/-- Standard error holds the notices `before`, what the apps wrote there, and the notices `after`,
one behind the other. -/
def Log.Speaks (log : Log) (w : World) (before after : List Notice) : Prop :=
  log.stderr =
    (w.told before).stderr ++ (log.apps w).flatMap (·.stderr) ++ (w.told after).stderr

namespace Log

variable {w : World} {log : Log} {before after : List Notice}

@[simp] theorem stderr_append (a b : Log) : (a ++ b).stderr = a.stderr ++ b.stderr := rfl

theorem stderr_told_append (w : World) (a b : List Notice) :
    (w.told (a ++ b)).stderr = (w.told a).stderr ++ (w.told b).stderr := by
  unfold World.told
  split <;> simp

theorem speaks_of_silent (quiet : log.stderr = []) (noApps : log.apps w = []) :
    log.Speaks w [] [] := by
  simp [Speaks, quiet, noApps, World.told]

theorem speaks_told (w : World) (notices : List Notice) :
    (w.told notices).Speaks w notices [] := by
  simp [Speaks, empty]

theorem Speaks.behind_notices (h : log.Speaks w before after) (notices : List Notice) :
    (w.told notices ++ log).Speaks w (notices ++ before) after := by
  unfold Speaks at h ⊢
  rw [stderr_append, apps_append, apps_told, List.nil_append, stderr_told_append, h]
  simp only [List.append_assoc]

theorem Speaks.before_notices (h : log.Speaks w before []) (notices : List Notice) :
    (log ++ w.told notices).Speaks w before notices := by
  unfold Speaks at h ⊢
  rw [stderr_append, apps_append, apps_told, List.append_nil, h, w.told_nil]
  simp [empty]

/-- What the version control program writes to standard error is not passed on. -/
@[simp] theorem stderr_inquiry (s : Settings) (w : World) : (s.inquiry w).stderr = [] := by
  unfold Settings.inquiry
  split <;> rfl

theorem speaks_inquiry (s : Settings) (w : World) : (s.inquiry w).Speaks w [] [] :=
  speaks_of_silent (stderr_inquiry s w) apps_inquiry

theorem Speaks.behind_inquiry (h : log.Speaks w before after) (s : Settings) :
    (s.inquiry w ++ log).Speaks w before after := by
  unfold Speaks at h ⊢
  rw [stderr_append, apps_append, apps_inquiry, stderr_inquiry, List.nil_append, List.nil_append, h]

end Log

/-- The command line is the only one that is told, and it is told before the app writes anything. -/
structure Announces (before after : List Notice) (commandLine : String) : Prop where
  only : (before ++ after).filterMap Notice.commandLine? = [commandLine]
  first : .starting commandLine ∈ before

/-- Notices without a command line may stand in front. -/
theorem Announces.behind {before after : List Notice} {commandLine : String}
    (h : Announces before after commandLine) {notices : List Notice}
    (other : notices.filterMap Notice.commandLine? = []) :
    Announces (notices ++ before) after commandLine where
  only := by rw [List.append_assoc, List.filterMap_append, other, List.nil_append, h.only]
  first := List.mem_append_right notices h.first

/-- A launch tells the command line, if the app is there, and its end, if that means trouble. -/
theorem LocalBuild.Launched.speaks {b : LocalBuild} {w : World} {app : String} {args : List String}
    {r : Except Failure Outcome} {t : Log} (h : b.Launched w app args r t) :
    ∃ before after, t.Speaks w before after ∧ after.length ≤ 1 ∧
      ∀ outcome, r = .ok outcome →
        Announces before after (Shell.render (b.pathOf app) args) := by
  cases h with
  | missing absent => exact ⟨[], [], Log.speaks_of_silent rfl rfl, by simp, fun _ h => nomatch h⟩
  | @refused e present start =>
    have silent : (Log.ofAttempt (b.request app args) (.error e)).Speaks w [] [] :=
      Log.speaks_of_silent rfl (Log.apps_refused w _ _)
    exact ⟨_, [], silent.behind_notices _, by simp, fun _ h => nomatch h⟩
  | @ended started p present start =>
    have written :
        (Log.ofAttempt (b.request app args) (.ok started) ++ .ofProgram p).Speaks w [] [] := by
      rw [Log.Speaks, apps_started start]
      simp [Log.ofAttempt, Log.ofProgram, Log.empty]
    refine ⟨_, _, (written.before_notices _).behind_notices _, ?_, ?_⟩
    · unfold endNotices
      split <;> simp
    · intro outcome _
      refine ⟨?_, List.mem_cons_self⟩
      unfold endNotices
      split <;> simp [Notice.commandLine?]

section

variable {w : World} {o : StepOptions}

theorem StepOptions.commandLine_sourceNotices (w : World) (o : StepOptions) :
    (o.sourceNotices w).filterMap Notice.commandLine? = [] := by
  unfold sourceNotices Config.sourceNotices
  repeat' split
  all_goals rfl

theorem Job.commandLine_overridesNotice (j : Job) (i : Invocation) :
    (j.overridesNotice i).commandLine? = none := by
  unfold overridesNotice
  split <;> rfl

theorem speaks_trace_settingsOf (w : World) (o : StepOptions) :
    (settingsOf w o).trace.Speaks w (o.sourceNotices w) [] := by
  rw [trace_settingsOf]
  exact Log.speaks_told w _

/-- What follows the settings is told behind the notice on the config file. -/
theorem Log.Speaks.behind_settings {log : Log} {before after : List Notice}
    (h : log.Speaks w before after) (o : StepOptions) :
    ((settingsOf w o).trace ++ log).Speaks w (o.sourceNotices w ++ before) after := by
  rw [trace_settingsOf]
  exact h.behind_notices _

/-- A run tells one command line at most, and the one that it reports if it succeeds. -/
theorem RunCourse.speaks {r : Except Failure RunReport} {t : Log} (course : RunCourse w o r t) :
    ∃ before after, t.Speaks w before after ∧ after.length ≤ 1 ∧
      ∀ report, r = .ok report → Announces before after report.plan.command := by
  cases course with
  | unsettled settings =>
    exact ⟨_, [], speaks_trace_settingsOf w o, by simp, fun _ h => nomatch h⟩
  | unbuilt settings build =>
    exact ⟨_, [], speaks_trace_settingsOf w o, by simp, fun _ h => nomatch h⟩
  | @unassembled s b f settings build assembly =>
    exact ⟨_, [], (Log.speaks_inquiry s w).behind_settings o, by simp, fun _ h => nomatch h⟩
  | @unlaunched s b i f t settings build assembly launch =>
    obtain ⟨before, after, speaks, short, -⟩ := launch.speaks
    exact ⟨_, after, ((speaks.behind_notices _).behind_inquiry s).behind_settings o, short,
      fun _ h => nomatch h⟩
  | @finished s b i outcome t settings build assembly launch =>
    obtain ⟨before, after, speaks, short, line⟩ := launch.speaks
    refine ⟨_, after, ((speaks.behind_notices _).behind_inquiry s).behind_settings o, short, ?_⟩
    intro report h
    obtain rfl := Except.ok.inj h
    have shown : (s.planReport i).command = Shell.render (b.pathOf i.app) i.args := by
      rw [Settings.planReport, shownProgram_of_build build]
    have overrides : [s.job.overridesNotice i].filterMap Notice.commandLine? = [] := by
      simp [s.job.commandLine_overridesNotice]
    rw [shown]
    exact ((line outcome rfl).behind overrides).behind (o.commandLine_sourceNotices w)

/-- A plan tells nothing but where its settings come from. -/
theorem planJob_speaks (w : World) (o : StepOptions) :
    ∃ r t, (planJob w o).Leaves r t ∧ t.Speaks w (o.sourceNotices w) [] := by
  cases settings : (settingsOf w o).result with
  | error f => exact ⟨_, _, planJob_of_unsettled settings, speaks_trace_settingsOf w o⟩
  | ok s =>
    have asked := (Log.speaks_inquiry s w).behind_settings o
    rw [List.append_nil] at asked
    exact ⟨_, _, planJob_of_settled settings, asked⟩

end

/-! ## The command line that is reported -/

theorem Json.member?_obj (key : String) (members : List (String × Json)) :
    (Json.obj members).member? key = members.lookup key := by
  unfold member?
  induction members with
  | nil => rfl
  | cons member rest ih =>
    obtain ⟨name, value⟩ := member
    rw [lookup_cons_ite, ← ih]
    by_cases same : key = name
    · simp [same]
    · simp [same, Ne.symm same]

theorem Json.Shows.member?_eq {data : Json} {fields : List (String × Option Json)}
    (h : data.Shows fields) (key : String) : data.member? key = (fields.lookup key).join := by
  obtain ⟨members, rfl, -, held⟩ := h
  rw [member?_obj, held]

/-- The data of a run has its command line. -/
theorem RunReport.member?_command (r : RunReport) :
    r.toJson.sorted.member? "command" = some (.str r.plan.command) := by
  rw [r.shows_fields.member?_eq]
  rfl

/-! ## Executions -/

theorem stdout_eq_arrives (w : World) (sink : Sink) (c : Command) :
    (execute w sink c).stdout = sink.arrives ((execute w sink c).log.stdout ++
      Text.encode (Envelope.text (execute w sink c).answer.result)) := rfl

/-- What a command leaves on standard error, and the command line in the data of a run. -/
theorem data_speaks (w : World) (c : Command) :
    ∃ r t, (c.data w).Leaves r t ∧ ∃ before after, t.Speaks w before after ∧ after.length ≤ 1 ∧
      ∀ o, c = .run o → ∀ data, r = .ok data → ∃ command, Announces before after command ∧
        data.1.sorted.member? "command" = some (.str command) := by
  cases c with
  | run o =>
    obtain ⟨r, t, course, run⟩ := runJob_leaves w o
    obtain ⟨before, after, speaks, short, line⟩ := course.speaks
    refine ⟨_, t, data_run_leaves run, before, after, speaks, short, ?_⟩
    intro _ _ data h
    obtain ⟨report, rfl, rfl⟩ := ok_of_map_eq_ok h
    exact ⟨_, line report rfl, report.member?_command⟩
  | plan o =>
    obtain ⟨r, t, plan, speaks⟩ := planJob_speaks w o
    exact ⟨_, t, data_plan_leaves plan, _, _, speaks, by simp, fun _ h => nomatch h⟩
  | overrides builder =>
    exact ⟨_, _, data_overrides_leaves w builder, [], [], Log.speaks_of_silent rfl rfl, by simp,
      fun _ h => nomatch h⟩

theorem execute_alike (w : World) (terminal : Bool) (sink : Sink) (c : Command) :
    (execute (w.withTerminal terminal) sink c).answer = (execute w sink c).answer ∧
      (execute w sink c).log.Alike (execute (w.withTerminal terminal) sink c).log := by
  obtain ⟨result, t, u, without, within, same⟩ := data_alike w terminal c
  obtain ⟨answer, log⟩ := execute_eq without sink
  obtain ⟨answer', log'⟩ := execute_eq within sink
  refine ⟨answer'.trans answer.symm, ?_⟩
  rw [log, log']
  exact (Log.alike_told w _ _).append same

/-- What an execution leaves on standard error, and the command line in the answer to a run. -/
theorem execute_speaks (w : World) (sink : Sink) (c : Command) :
    ∃ before after, (execute w sink c).log.Speaks w (.working :: before) after ∧
      after.length ≤ 1 ∧
      ∀ o, c = .run o → (execute w sink c).Succeeds → ∃ command,
        Announces before after command ∧
        ((execute w sink c).envelope.member? "data").bind (Json.member? "command") =
          some (.str command) := by
  obtain ⟨r, t, leaves, before, after, speaks, short, line⟩ := data_speaks w c
  obtain ⟨answer, log⟩ := execute_eq leaves sink
  refine ⟨before, after, ?_, short, ?_⟩
  · rw [log]
    exact speaks.behind_notices [.working]
  · rintro o rfl succeeds
    obtain ⟨data, rfl⟩ := (Execution.succeeds_iff answer).1 succeeds
    rw [Execution.envelope, answer]
    exact line o rfl data rfl

/-- A terminal changes nothing about an execution but what stands on standard error: not what is
printed, not the exit code, and not which programs are started, where, with which arguments and in
which order. Without a terminal, what the app wrote to standard error stands there and nothing else.
With a terminal, notices stand there, each with its line break and the first of them telling that
the job has begun, then what the app wrote, then at most one notice. If a run succeeds, one of the
notices in front tells a command line, no other does, and it is the one in the answer. -/
theorem execute_terminal (w : World) (sink : Sink) (c : Command) :
    (∀ terminal, let other := execute (w.withTerminal terminal) sink c
      other.stdout = (execute w sink c).stdout ∧
      other.processCode = (execute w sink c).processCode ∧
      other.answer = (execute w sink c).answer ∧
      other.printed = (execute w sink c).printed ∧
      other.log.attempts = (execute w sink c).log.attempts) ∧
    (w.terminal = false →
      (execute w sink c).log.stderr = ((execute w sink c).log.apps w).flatMap (·.stderr)) ∧
    ∃ before after, after.length ≤ 1 ∧
      (w.terminal = true → (execute w sink c).log.stderr =
        Text.encode "bench-step is working...\n" ++ Notice.lines before ++
          ((execute w sink c).log.apps w).flatMap (·.stderr) ++ Notice.lines after) ∧
      ∀ o, c = .run o → (execute w sink c).Succeeds → ∃ command,
        (before ++ after).filterMap Notice.commandLine? = [command] ∧
        (∃ told other, before = told ++ .starting command :: other ∧
          Notice.lines before = Notice.lines told ++
            Text.encode ("[flavor] " ++ command ++ "\n") ++ Notice.lines other) ∧
        ((execute w sink c).envelope.member? "data").bind (Json.member? "command") =
          some (.str command) := by
  obtain ⟨before, after, speaks, short, line⟩ := execute_speaks w sink c
  refine ⟨?_, ?_, before, after, short, ?_, ?_⟩
  · intro terminal
    obtain ⟨answers, logs⟩ := execute_alike w terminal sink c
    refine ⟨?_, ?_, answers, rfl, logs.1.symm⟩
    · rw [stdout_eq_arrives, stdout_eq_arrives, answers, logs.2]
    · rw [Execution.processCode, Execution.processCode, answers]
  · intro quiet
    rw [speaks]
    simp [World.told, quiet]
  · intro terminal
    have begun : Notice.lines (.working :: before) =
        Text.encode "bench-step is working...\n" ++ Notice.lines before := List.flatMap_cons
    rw [speaks, ← begun]
    simp [World.told, terminal, Notice.lines]
  · intro o run succeeds
    obtain ⟨command, announced, shown⟩ := line o run succeeds
    exact ⟨command, announced.only, Notice.exists_lines_of_starting announced.first, shown⟩

theorem Sample.stderr_apps :
    ((execute machine .writable (.run options)).log.apps machine).map (·.stderr) = [[]] := by
  decide +kernel

/-- The sample run prints the same without a terminal, and then nothing is told. With the terminal of
the sample machine it tells the command line that it reports. -/
theorem sample_execute_terminal :
    (execute (Sample.machine.withTerminal false) .writable (.run Sample.options)).stdout =
        (execute Sample.machine .writable (.run Sample.options)).stdout ∧
      (execute (Sample.machine.withTerminal false) .writable (.run Sample.options)).log.stderr =
        [] ∧
      ∃ before after,
        (execute Sample.machine .writable (.run Sample.options)).log.stderr =
          Text.encode "bench-step is working...\n" ++ Notice.lines before ++ Notice.lines after ∧
        ∃ command, (before ++ after).filterMap Notice.commandLine? = [command] ∧
          (∃ told other, before = told ++ .starting command :: other ∧
            Notice.lines before = Notice.lines told ++
              Text.encode ("[flavor] " ++ command ++ "\n") ++ Notice.lines other) ∧
          ((execute Sample.machine .writable (.run Sample.options)).envelope.member? "data").bind
            (Json.member? "command") = some (.str command) := by
  have silent : ((execute Sample.machine .writable (.run Sample.options)).log.apps
      Sample.machine).flatMap (·.stderr) = [] := by
    rw [List.flatMap_def, Sample.stderr_apps, List.flatten_singleton]
  have succeeds : (execute Sample.machine .writable (.run Sample.options)).Succeeds := by
    obtain ⟨r, answer, ended⟩ := execute_ended Sample.machine .writable (.run Sample.options)
    rw [Execution.succeeds_iff answer]
    have apps := Sample.stderr_apps
    generalize (execute Sample.machine .writable (.run Sample.options)).log.apps
      Sample.machine = started at apps ended
    cases ended with
    | failed f => simp at apps
    | ran data p => exact ⟨_, rfl⟩
    | answered data other => simp at apps
  obtain ⟨same, -, before, after, -, lines, command⟩ :=
    execute_terminal Sample.machine .writable (.run Sample.options)
  obtain ⟨output, -, -, -, attempts⟩ := same false
  obtain ⟨-, unheard, -⟩ :=
    execute_terminal (Sample.machine.withTerminal false) .writable (.run Sample.options)
  refine ⟨output, ?_, before, after, ?_, command _ rfl succeeds⟩
  · rw [unheard rfl, Log.apps_withTerminal, Log.apps, attempts]
    exact silent
  · rw [lines rfl, silent, List.append_nil]

end BenchJob
