import BenchJob.Proofs.Job.Session

/-!
# Whom a job asks, and how often

Any collaborators can be made to keep a record of what they are asked and of what they answer. They
still behave as before, and the record tells how a job uses them: the time of the commit is asked for
once if results are kept and never otherwise, and the app is launched once the arguments are known,
with these arguments, and never again.

## Main definitions

- `Exchange`: what a collaborator was asked, and its answer.
- `Host.noted`, `Job.Call.noted`: collaborators that keep a record.
- `Job.questions`, `Job.launches`: the exchanges of an invocation and of a run.
- `Job.keptCalls`: the calls that need the time of the commit.

## Main statements

- `Job.exec_noted_invocation`, `Job.exec_noted_run`: the record of an invocation and of a run.
- `Job.step_noted`, `Job.session_noted`: the record of one call, and of a session.
- `Job.exchanges_with_collaborators`: how a job uses its collaborators.
-/

namespace BenchJob

variable {σ α : Type}

/-- What a collaborator was asked, and its answer: the time of the commit, or an app to launch. -/
inductive Exchange where
  | asked (answer : Except Failure Int)
  | launched (app : String) (args : List String) (answer : Except Failure Outcome)

def Exchange.isQuestion : Exchange → Bool
  | .asked _ => true
  | .launched .. => false

/-! ## Collaborators that keep a record -/

/-- A step that adds the exchange with its answer to a record. -/
def Act.noted (a : Act σ α) (exchange : Except Failure α → Exchange) : Act (σ × List Exchange) α :=
  ExceptT.mk fun (s, record) =>
    let (answer, t) := a.exec s
    (answer, t, record ++ [exchange answer])

/-- The host with a record of the questions that it answers and of the apps that it launches. -/
def Host.noted (host : Host σ) : Host (σ × List Exchange) where
  commitTimestamp := host.commitTimestamp.noted .asked
  launch app args := (host.launch app args).noted (.launched app args)
  announce notice := fun (s, record) =>
    let ((), t) := (host.announce notice).run s
    ((), t, record)

theorem Act.exec_noted (a : Act σ α) (exchange : Except Failure α → Exchange) (s : σ)
    (record : List Exchange) :
    (a.noted exchange).exec (s, record) =
      ((a.exec s).1, (a.exec s).2, record ++ [exchange (a.exec s).1]) := rfl

namespace Job

def questions (j : Job) (source : Act σ Int) (s : σ) : List Exchange :=
  match j.perfDataDir with
  | none => []
  | some _ => [.asked (source.exec s).1]

def launches (j : Job) (host : Host σ) (s : σ) : List Exchange :=
  match (j.invocation host.commitTimestamp).exec s with
  | (.error _, _) => []
  | (.ok i, t) =>
    [.launched i.app i.args ((host.launch i.app i.args).exec
      ((host.announce (j.overridesNotice i)).run t).2).1]

/-- The record of an invocation. -/
theorem exec_noted_invocation (j : Job) (source : Act σ Int) (s : σ) (record : List Exchange) :
    (j.invocation (source.noted .asked)).exec (s, record) =
      (((j.invocation source).exec s).1, ((j.invocation source).exec s).2,
        record ++ j.questions source s) := by
  unfold questions
  rw [exec_invocation, exec_invocation]
  cases j.perfDataDir with
  | none => simp
  | some dir => rw [Act.exec_noted]

/-- The record of a run. -/
theorem exec_noted_run (j : Job) (host : Host σ) (s : σ) (record : List Exchange) :
    (j.run host.noted).exec (s, record) =
      (((j.run host).exec s).1, ((j.run host).exec s).2,
        record ++ j.questions host.commitTimestamp s ++ j.launches host s) := by
  unfold launches
  rw [exec_run, exec_run]
  have assembly := j.exec_noted_invocation host.commitTimestamp s record
  rw [show host.noted.commitTimestamp = host.commitTimestamp.noted .asked from rfl, assembly]
  rcases (j.invocation host.commitTimestamp).exec s with ⟨f | i, t⟩
  · simp
  · rfl

/-! ## Sessions -/

def Call.noted : Call σ → Call (σ × List Exchange)
  | .perfDataDir dir => .perfDataDir dir
  | .benchArgs args => .benchArgs args
  | .logFile => .logFile
  | .resultsFile timestamp => .resultsFile timestamp
  | .invocation source => .invocation (source.noted .asked)
  | .run host => .run host.noted

/-- The calls that need the time of the commit, made while a directory for the results is set. -/
def keptCalls (dir : Option String) : List (Call σ) → Nat
  | [] => 0
  | c :: rest =>
    (if c.source?.isSome && dir.isSome then 1 else 0) + keptCalls (c.dir?.getD dir) rest

theorem perfDataDir_step (c : Call σ) (j : Job) (s : σ) :
    (c.step j s).job.perfDataDir = c.dir?.getD j.perfDataDir := by
  cases c <;> rfl

theorem countP_questions (j : Job) (source : Act σ Int) (s : σ) :
    (j.questions source s).countP Exchange.isQuestion =
      if j.perfDataDir.isSome then 1 else 0 := by
  unfold questions
  cases j.perfDataDir <;> rfl

theorem countP_launches (j : Job) (host : Host σ) (s : σ) :
    (j.launches host s).countP Exchange.isQuestion = 0 := by
  unfold launches
  split <;> rfl

/-- The record of a call has a question if the call needs the time of the commit and results are
kept. -/
theorem step_noted (c : Call σ) (j : Job) (s : σ) (record : List Exchange) :
    ∃ exchanges, c.noted.step j (s, record) =
        ⟨(c.step j s).reply, (c.step j s).job, (c.step j s).state, record ++ exchanges⟩ ∧
      exchanges.countP Exchange.isQuestion =
        if c.source?.isSome && j.perfDataDir.isSome then 1 else 0 := by
  cases c with
  | invocation source =>
    refine ⟨j.questions source s, ?_, j.countP_questions source s⟩
    simp only [Call.noted, Call.step]
    rw [exec_noted_invocation]
  | run host =>
    refine ⟨j.questions host.commitTimestamp s ++ j.launches host s, ?_, ?_⟩
    · simp only [Call.noted, Call.step]
      rw [exec_noted_run, List.append_assoc]
    · rw [List.countP_append, countP_questions, countP_launches]
      rfl
  | _ => exact ⟨[], by rw [List.append_nil]; rfl, rfl⟩

/-- The record of a session has a question for each call that needs the time of the commit. -/
theorem session_noted (calls : List (Call σ)) (j : Job) (s : σ) (record : List Exchange) :
    ∃ exchanges, j.session (s, record) (calls.map Call.noted) =
        ⟨(j.session s calls).replies, (j.session s calls).job, (j.session s calls).state,
          record ++ exchanges⟩ ∧
      exchanges.countP Exchange.isQuestion = keptCalls j.perfDataDir calls := by
  induction calls generalizing j s record with
  | nil => exact ⟨[], by rw [List.append_nil]; rfl, rfl⟩
  | cons c rest ih =>
    obtain ⟨first, step, once⟩ := step_noted c j s record
    obtain ⟨later, session_rest, total⟩ := ih (c.step j s).job (c.step j s).state (record ++ first)
    refine ⟨first ++ later, ?_, ?_⟩
    · simp only [List.map_cons, session]
      rw [step, session_rest, List.append_assoc]
    · rw [List.countP_append, once, total, perfDataDir_step, keptCalls]

/-! ## How a job uses its collaborators -/

theorem app_of_exec_invocation {j : Job} {source : Act σ Int} {s : σ} {i : Invocation}
    (h : ((j.invocation source).exec s).1 = .ok i) : i.app = benchApp := by
  rw [exec_invocation] at h
  cases dir : j.perfDataDir with
  | none =>
    rw [dir] at h
    cases h
    rfl
  | some kept =>
    rw [dir] at h
    obtain ⟨_, -, rfl⟩ := ok_of_map_eq_ok h
    rfl

/-- A question without an answer leaves the job without an invocation. -/
theorem error_of_mem_questions {j : Job} {source : Act σ Int} {s : σ} {f : Failure}
    (h : .asked (.error f) ∈ j.questions source s) :
    ((j.invocation source).exec s).1 = .error f := by
  unfold questions at h
  rw [exec_invocation]
  cases kept : j.perfDataDir with
  | none => simp [kept] at h
  | some dir =>
    rw [kept, List.mem_singleton, Exchange.asked.injEq] at h
    simp only [← h]
    rfl

/-- A run without its arguments fails as they did and launches nothing. -/
theorem exec_run_of_error {j : Job} {host : Host σ} {s : σ} {f : Failure}
    (h : ((j.invocation host.commitTimestamp).exec s).1 = .error f) :
    ((j.run host).exec s).1 = .error f ∧ j.launches host s = [] := by
  unfold launches
  rw [exec_run]
  rcases assembly : (j.invocation host.commitTimestamp).exec s with ⟨_ | _, t⟩
  · rw [assembly] at h
    cases h
    exact ⟨rfl, rfl⟩
  · rw [assembly] at h
    cases h

/-- A run with its arguments launches the app with them, and comes to what the launch does. -/
theorem exec_run_of_ok {j : Job} {host : Host σ} {s : σ} {i : Invocation}
    (h : ((j.invocation host.commitTimestamp).exec s).1 = .ok i) :
    ∃ answer, j.launches host s = [.launched benchApp i.args answer] ∧
      ((j.run host).exec s).1 = answer.map fun outcome => (i, outcome) := by
  rw [← app_of_exec_invocation h]
  unfold launches
  rw [exec_run]
  rcases assembly : (j.invocation host.commitTimestamp).exec s with ⟨_ | other, t⟩
  · rw [assembly] at h
    cases h
  · rw [assembly] at h
    cases h
    exact ⟨_, rfl, rfl⟩

/-- How a job uses its collaborators, as they record it; they behave as they do without a record. To
put its arguments together, a job asks for the time of the commit once if results are kept, and
never otherwise. A run asks the same, launches the app once the arguments are known, once and with
these arguments, and launches nothing without them. The failure of a collaborator is the failure of
the call, and the outcome of the app is handed on. In a session there are as many questions as calls
that need the time of the commit while a directory for the results is set. -/
theorem exchanges_with_collaborators (j : Job) (host : Host σ) (s : σ) :
    let built := (j.invocation host.noted.commitTimestamp).exec (s, [])
    let ran := (j.run host.noted).exec (s, [])
    (built.1, built.2.1) = (j.invocation host.commitTimestamp).exec s ∧
    (ran.1, ran.2.1) = (j.run host).exec s ∧
    (j.perfDataDir = none → built.2.2 = []) ∧
    (j.perfDataDir ≠ none → built.2.2 = [.asked (host.commitTimestamp.exec s).1]) ∧
    (∀ f, .asked (.error f) ∈ built.2.2 → built.1 = .error f) ∧
    (∀ f, built.1 = .error f → ran.1 = .error f ∧ ran.2.2 = built.2.2) ∧
    (∀ i, built.1 = .ok i → ∃ answer,
      ran.2.2 = built.2.2 ++ [.launched "bench" i.args answer] ∧
        ran.1 = answer.map fun outcome => (i, outcome)) ∧
    ∀ calls : List (Call σ),
      let session := j.session (s, []) (calls.map Call.noted)
      session.replies = (j.session s calls).replies ∧
        session.state.2.countP Exchange.isQuestion = keptCalls j.perfDataDir calls := by
  intro built ran
  have built_eq : built = _ := j.exec_noted_invocation host.commitTimestamp s []
  have ran_eq : ran = _ := j.exec_noted_run host s []
  rw [built_eq, ran_eq]
  refine ⟨rfl, rfl, ?_, ?_, ?_, ?_, ?_, ?_⟩
  · intro unkept
    simp [questions, unkept]
  · intro kept
    obtain ⟨dir, kept⟩ := Option.ne_none_iff_exists'.1 kept
    simp [questions, kept]
  · intro f asked
    exact error_of_mem_questions asked
  · intro f failed
    obtain ⟨fails, nothing⟩ := exec_run_of_error failed
    exact ⟨fails, by simp [nothing]⟩
  · intro i assembled
    obtain ⟨answer, launched, result⟩ := exec_run_of_ok assembled
    exact ⟨answer, by simp [launched, benchApp], result⟩
  · intro calls
    obtain ⟨exchanges, noted, total⟩ := session_noted calls j s []
    rw [noted]
    exact ⟨rfl, total⟩

end Job

/-- A host that has no answer to the first question, and whose apps end with 3. -/
def Sample.host : Host Nat where
  commitTimestamp := source
  launch _ _ := return .ofExitCode 3
  announce _ := pure ()

/-- A run that gets no answer launches nothing, and one that gets an answer launches the app. One of
the sample calls is a question while results are kept. -/
theorem Sample.exchanges_with_host :
    let start := Job.new "Perf-Nexus4" "r1" "/res" "/perf"
    let j := start.withPerfDataDir (some "")
    let unanswered := (j.run host.noted).exec (0, [])
    let answered := (j.run host.noted).exec (1, [])
    unanswered.1 = .error (.gitCommandFailed "busy") ∧
      unanswered.2.2 = [.asked (.error (.gitCommandFailed "busy"))] ∧
      (∃ i answer, answered.1 = answer.map (fun outcome => (i, outcome)) ∧
        answered.2.2 = [.asked (.ok 1), .launched "bench" i.args answer]) ∧
      (start.session (0, []) (calls.map Job.Call.noted)).state.2.countP Exchange.isQuestion = 1 := by
  intro start j unanswered answered
  obtain ⟨-, -, -, asks, failure, fails, -⟩ := j.exchanges_with_collaborators host 0
  obtain ⟨-, -, -, asksAgain, -, -, succeeds, -⟩ := j.exchanges_with_collaborators host 1
  obtain ⟨-, -, -, -, -, -, -, total⟩ := start.exchanges_with_collaborators host 0
  have kept : j.perfDataDir ≠ none := Option.some_ne_none ""
  have asked := asks kept
  have unassembled := failure (.gitCommandFailed "busy") (asked ▸ List.mem_singleton_self _)
  obtain ⟨failed, nothing⟩ := fails _ unassembled
  obtain ⟨answer, launched, result⟩ := succeeds _ rfl
  refine ⟨failed, nothing.trans asked, ⟨_, answer, result, ?_⟩, (total calls).2⟩
  exact launched.trans (congrArg (· ++ _) (asksAgain kept))

end BenchJob
