import BenchJob.Proofs.Reports
import BenchJob.Proofs.Trace

/-!
# Sessions with a job

A job is built by two kinds of calls: the directory for its results is replaced, and arguments are
added behind the ones it has. In between it may be asked for its files, for its invocation, or to
run, any number of times, with collaborators that may fail and that share a state of their own. What
a call comes to depends on the calls before it only through the directory that was set last, the
arguments that were added, and the state of the collaborators.

## Main definitions

- `Job.Call`, `Job.Call.step`: a call on a job, and what it comes to.
- `Job.session`: calls one behind the other.
- `Job.lastDir`, `Job.addedArgs`, `Job.after`: what a history of calls makes of a job.
- `Job.determined`: the invocation for what the calls have set and the collaborators answer.
- `Invocation.Shaped`: where the parts of an invocation stand.

## Main statements

- `Job.exec_invocation`, `Job.exec_run`: what the two calls with collaborators do.
- `Job.job_step`, `Job.job_session`: the job behind one call, and behind a history of calls.
- `Job.session_determined`: the replies of a session.
-/

namespace BenchJob

namespace Job

variable {σ : Type}

/-! ## The calls with collaborators -/

/-- The time of the commit is asked for once if results are kept, and otherwise not at all. -/
theorem exec_invocation (j : Job) (source : Act σ Int) (s : σ) :
    (j.invocation source).exec s =
      match j.perfDataDir with
      | none => (.ok (j.assemble none), s)
      | some _ => ((source.exec s).1.map fun seconds => j.assemble (some (j.recordingAt seconds)),
          (source.exec s).2) := by
  unfold invocation recording
  cases j.perfDataDir with
  | none => rfl
  | some dir =>
    simp only [Act.exec_map]
    rcases source.exec s with ⟨_ | _, t⟩ <;> rfl

/-- The app is launched once if the arguments are known, and otherwise not at all. -/
theorem exec_run (j : Job) (host : Host σ) (s : σ) :
    (j.run host).exec s =
      match (j.invocation host.commitTimestamp).exec s with
      | (.error f, t) => (.error f, t)
      | (.ok i, t) =>
        let launched := (host.launch i.app i.args).exec
          ((host.announce (j.overridesNotice i)).run t).2
        (launched.1.map fun outcome => (i, outcome), launched.2) := by
  unfold run
  rw [Act.exec_bind]
  rcases (j.invocation host.commitTimestamp).exec s with ⟨f | i, t⟩
  · rfl
  · simp only
    rw [Act.exec_bind]
    exact Act.exec_map _ _ _

/-! ## Calls -/

/-- A call on a job. Two kinds of calls build it, the others ask it for something. A call brings the
collaborators that it needs. -/
inductive Call (σ : Type) where
  | perfDataDir (dir : Option String)
  | benchArgs (args : List String)
  | logFile
  | resultsFile (timestamp : Int)
  | invocation (source : Act σ Int)
  | run (host : Host σ)

inductive Reply where
  | built
  | file (path : String)
  | assembled (result : Except Failure Invocation)
  | ran (result : Except Failure (Invocation × Outcome))

structure Turn (σ : Type) where
  reply : Reply
  job : Job
  state : σ

def Call.step (c : Call σ) (j : Job) (s : σ) : Turn σ :=
  match c with
  | .perfDataDir dir => ⟨.built, j.withPerfDataDir dir, s⟩
  | .benchArgs args => ⟨.built, j.addArgs args, s⟩
  | .logFile => ⟨.file j.logFile, j, s⟩
  | .resultsFile timestamp => ⟨.file (j.resultsFile timestamp), j, s⟩
  | .invocation source =>
    let (result, t) := (j.invocation source).exec s
    ⟨.assembled result, j, t⟩
  | .run host =>
    let (result, t) := (j.run host).exec s
    ⟨.ran result, j, t⟩

structure Session (σ : Type) where
  replies : List Reply
  job : Job
  state : σ

def session (j : Job) (s : σ) : List (Call σ) → Session σ
  | [] => ⟨[], j, s⟩
  | c :: rest =>
    let turn := c.step j s
    let later := session turn.job turn.state rest
    ⟨turn.reply :: later.replies, later.job, later.state⟩

def Call.asks : Call σ → Bool
  | .perfDataDir _ | .benchArgs _ => false
  | .logFile | .resultsFile _ | .invocation _ | .run _ => true

theorem session_append (j : Job) (s : σ) (before behind : List (Call σ)) :
    j.session s (before ++ behind) =
      let reached := j.session s before
      let later := reached.job.session reached.state behind
      ⟨reached.replies ++ later.replies, later.job, later.state⟩ := by
  induction before generalizing j s with
  | nil => rfl
  | cons c rest ih =>
    simp only [List.cons_append, session]
    rw [ih]

theorem replies_append (j : Job) (s : σ) (before behind : List (Call σ)) :
    (j.session s (before ++ behind)).replies =
      (j.session s before).replies ++
        ((j.session s before).job.session (j.session s before).state behind).replies := by
  rw [session_append]

theorem length_replies (j : Job) (s : σ) (calls : List (Call σ)) :
    (j.session s calls).replies.length = calls.length := by
  induction calls generalizing j s with
  | nil => rfl
  | cons c rest ih => simp [session, ih]

/-- A call that only asks leaves the job as it is to the calls behind it. -/
theorem session_of_asks {query : Call σ} (h : query.asks = true) (j : Job) (s : σ)
    (behind : List (Call σ)) :
    j.session s (query :: behind) =
      let turn := query.step j s
      let later := j.session turn.state behind
      ⟨turn.reply :: later.replies, later.job, later.state⟩ := by
  cases query with
  | perfDataDir dir => cases h
  | benchArgs args => cases h
  | _ => rfl

theorem reply_of_session (j : Job) (s : σ) (before behind : List (Call σ)) (c : Call σ) :
    (j.session s (before ++ c :: behind)).replies[before.length]? =
      some (c.step (j.session s before).job (j.session s before).state).reply := by
  rw [replies_append, ← j.length_replies s before]
  simp [session]

/-! ## What calls make of a job -/

def Call.dir? : Call σ → Option (Option String)
  | .perfDataDir dir => some dir
  | _ => none

def Call.args : Call σ → List String
  | .benchArgs args => args
  | _ => []

def lastDir (calls : List (Call σ)) : Option String := (calls.filterMap Call.dir?).getLast?.join

def addedArgs (calls : List (Call σ)) : List String := calls.flatMap Call.args

/-- The job that calls make of a new one. -/
def after (start : Job) (calls : List (Call σ)) : Job :=
  { start with perfDataDir := lastDir calls, benchArgs := addedArgs calls }

/-- One more call makes of a job what the history with this call does. -/
theorem job_step (start : Job) (calls : List (Call σ)) (c : Call σ) (s : σ) :
    (c.step (start.after calls) s).job = start.after (calls ++ [c]) := by
  cases c <;> simp [Call.step, after, lastDir, addedArgs, Call.dir?, Call.args, withPerfDataDir,
    addArgs]

/-- The job behind a history of calls. -/
theorem job_session (start : Job) (before calls : List (Call σ)) (s : σ) :
    ((start.after before).session s calls).job = start.after (before ++ calls) := by
  induction calls generalizing before s with
  | nil => rw [List.append_nil, session]
  | cons c rest ih =>
    show (((c.step (start.after before) s).job).session _ rest).job = _
    rw [job_step, ih, List.append_assoc, List.singleton_append]

theorem after_of_asks {query : Call σ} (h : query.asks = true) (start : Job)
    (before behind : List (Call σ)) :
    start.after (before ++ query :: behind) = start.after (before ++ behind) := by
  cases query with
  | perfDataDir dir => cases h
  | benchArgs args => cases h
  | _ => simp [after, lastDir, addedArgs, Call.dir?, Call.args]

/-- The invocation of a new job for which results are kept or not, with all arguments that were
added, if the question for the time of the commit is answered like this. -/
def determined (start : Job) (kept : Bool) (added : List String) (answer : Except Failure Int) :
    Except Failure Invocation :=
  let j := { start with benchArgs := added }
  if kept then answer.map fun seconds => j.assemble (some (start.recordingAt seconds))
  else .ok (j.assemble none)

theorem exec_invocation_after (start : Job) (calls : List (Call σ)) (source : Act σ Int) (s : σ) :
    (((start.after calls).invocation source).exec s).1 =
      start.determined (lastDir calls).isSome (addedArgs calls) (source.exec s).1 := by
  have dir : (start.after calls).perfDataDir = lastDir calls := rfl
  rw [exec_invocation, dir]
  cases lastDir calls <;> rfl

def Call.source? : Call σ → Option (Act σ Int)
  | .invocation source => some source
  | .run host => some host.commitTimestamp
  | _ => none

def Reply.invocation? : Reply → Option Invocation
  | .assembled (.ok i) => some i
  | .ran (.ok (i, _)) => some i
  | _ => none

/-- A run that succeeds has put its invocation together. -/
theorem exec_invocation_of_run {j : Job} {host : Host σ} {s : σ} {i : Invocation} {outcome : Outcome}
    (h : ((j.run host).exec s).1 = .ok (i, outcome)) :
    ((j.invocation host.commitTimestamp).exec s).1 = .ok i := by
  rw [exec_run] at h
  rcases assembly : (j.invocation host.commitTimestamp).exec s with ⟨f | other, t⟩
  · rw [assembly] at h
    cases h
  · rw [assembly] at h
    obtain ⟨_, -, same⟩ := ok_of_map_eq_ok h
    cases same
    rfl

/-- Whoever replies with an invocation has put it together. -/
theorem exec_of_invocation? {c : Call σ} {j : Job} {s : σ} {i : Invocation}
    (h : (c.step j s).reply.invocation? = some i) :
    ∃ source, c.source? = some source ∧ ((j.invocation source).exec s).1 = .ok i := by
  cases c with
  | invocation source =>
    simp only [Call.step] at h
    cases result : ((j.invocation source).exec s).1 with
    | error f => simp [result, Reply.invocation?] at h
    | ok other =>
      obtain rfl : other = i := by simpa [result, Reply.invocation?] using h
      exact ⟨source, rfl, result⟩
  | run host =>
    simp only [Call.step] at h
    cases result : ((j.run host).exec s).1 with
    | error f => simp [result, Reply.invocation?] at h
    | ok pair =>
      obtain rfl : pair.1 = i := by simpa [result, Reply.invocation?] using h
      exact ⟨host.commitTimestamp, rfl, exec_invocation_of_run result⟩
  | _ => cases h

end Job

/-! ## The parts of an invocation -/

/-- Where the parts of an invocation stand: the resource directory in front, the arguments that were
added at the end, and the files for the results, if they are kept, behind their flags. The members
for the files and for the time of the commit are there together or not at all. -/
structure Invocation.Shaped (i : Invocation) (resourceDir : String) (kept : Bool)
    (added : List String) : Prop where
  front : i.args.take 2 = ["-i", resourceDir]
  back : added <:+ i.args
  recorded : i.recording.isSome = kept
  dataFile : i.members.lookup "data_file" = i.recording.map fun r => .str r.logFile
  jsonDataFile : i.members.lookup "json_data_file" = i.recording.map fun r => .str r.resultsFile
  commitTimestamp : i.members.lookup "commit_timestamp" = i.recording.map fun r => .int r.timestamp
  placed : ∀ r, i.recording = some r →
    (i.args.drop 4).take 4 = ["--logFile", r.logFile, "--outResultsFile", r.resultsFile]

theorem Invocation.lookup_members (i : Invocation) (key : String) :
    i.members.lookup key = (i.fields.lookup key).join := by
  have keys : (i.fields.map (·.1)).Nodup := by
    rw [show i.fields.map (·.1) = Invocation.keys from rfl]
    decide
  rw [Invocation.members_eq, Json.lookup_present key keys]

theorem Job.shaped_assemble (j : Job) (recording : Option Recording) :
    (j.assemble recording).Shaped j.resourceDir recording.isSome j.benchArgs where
  front := rfl
  back := List.suffix_append _ _
  recorded := rfl
  dataFile := Invocation.lookup_members _ _
  jsonDataFile := Invocation.lookup_members _ _
  commitTimestamp := Invocation.lookup_members _ _
  placed := by
    rintro r ⟨⟩
    rfl

theorem Job.shaped_of_determined {start : Job} {kept : Bool} {added : List String}
    {answer : Except Failure Int} {i : Invocation}
    (h : start.determined kept added answer = .ok i) :
    i.Shaped start.resourceDir kept added := by
  unfold determined at h
  cases kept with
  | false =>
    obtain rfl := Except.ok.inj h
    exact shaped_assemble { start with benchArgs := added } none
  | true =>
    obtain ⟨seconds, -, rfl⟩ := ok_of_map_eq_ok h
    exact shaped_assemble { start with benchArgs := added } (some _)

/-! ## Sessions with a new job -/

namespace Job

variable {σ : Type}

/-- The replies of a session with a new job. Whatever was called before, the next call is made on the
job that the calls so far determine. An invocation is the one for the directory that was set last,
the arguments that were added and the answer to the question for the time of the commit, and it has
this shape. A call that only asks is left out without a change to the job, and the calls behind it
are answered as if it had not been made, but for what it has done to the collaborators. Setting the
directory right before or right behind adding arguments is the same. -/
theorem session_determined (builder revision resourceDir perfDir : String)
    (before : List (Call σ)) (s : σ) :
    let start := Job.new builder revision resourceDir perfDir
    let reached := start.session s before
    let kept := (lastDir before).isSome
    let added := addedArgs before
    (∀ (c : Call σ) behind, (start.session s (before ++ c :: behind)).replies[before.length]? =
      some (c.step reached.job reached.state).reply) ∧
    (∀ source : Act σ Int, ((Call.invocation source).step reached.job reached.state).reply =
      .assembled (start.determined kept added (source.exec reached.state).1)) ∧
    (∀ (c : Call σ) i, (c.step reached.job reached.state).reply.invocation? = some i →
      i.Shaped resourceDir kept added ∧ ∃ source, c.source? = some source ∧
        start.determined kept added (source.exec reached.state).1 = .ok i) ∧
    (∀ (query : Call σ) behind, query.asks = true →
      let asked := start.session s (before ++ query :: behind)
      let unasked := start.session s (before ++ behind)
      let turn := query.step reached.job reached.state
      asked.job = unasked.job ∧
      asked.replies =
        reached.replies ++ turn.reply :: (reached.job.session turn.state behind).replies ∧
      unasked.replies =
        reached.replies ++ (reached.job.session reached.state behind).replies) ∧
    ∀ dir args behind,
      start.session s (before ++ .perfDataDir dir :: .benchArgs args :: behind) =
        start.session s (before ++ .benchArgs args :: .perfDataDir dir :: behind) := by
  intro start reached kept added
  have job : ∀ calls, (start.session s calls).job = start.after calls :=
    fun calls => start.job_session [] calls s
  have atReached : reached.job = start.after before := job before
  refine ⟨?_, ?_, ?_, ?_, ?_⟩
  · intro c behind
    exact start.reply_of_session s before behind c
  · intro source
    rw [← exec_invocation_after, ← atReached]
    rfl
  · intro c i h
    obtain ⟨source, asked, assembled⟩ := exec_of_invocation? h
    rw [atReached, exec_invocation_after] at assembled
    exact ⟨shaped_of_determined assembled, source, asked, assembled⟩
  · intro query behind asks
    refine ⟨?_, ?_, ?_⟩
    · rw [job, job, after_of_asks asks]
    · rw [replies_append, session_of_asks asks]
    · exact start.replies_append s before behind
  · intro dir args behind
    rw [session_append, session_append]
    rfl

end Job

/-- A source that has no answer to the first question, and then counts the questions. -/
def Sample.source : Act Nat Int := do
  let asked ← get
  set (asked + 1)
  if asked = 0 then throw (.gitCommandFailed "busy") else return asked

def Sample.calls : List (Job.Call Nat) :=
  [.benchArgs ["--repeat"], .perfDataDir (some ""), .invocation source, .benchArgs ["3"]]

/-- Behind the sample calls the results are kept, and the arguments of both calls stand at the end of
the invocation, although the first question for it has failed. -/
theorem Sample.session_determined_calls :
    let reached := (Job.new "Perf-Nexus4" "r1" "/res" "/perf").session 0 calls
    ∃ i, ((Job.Call.invocation source).step reached.job reached.state).reply =
        .assembled (.ok i) ∧
      ["--repeat", "3"] <:+ i.args ∧ i.args.take 2 = ["-i", "/res"] ∧
      i.recording.map (·.timestamp) = some 1 := by
  intro reached
  obtain ⟨-, assembled, shaped, -⟩ :=
    Job.session_determined "Perf-Nexus4" "r1" "/res" "/perf" calls 0
  have reply : ((Job.Call.invocation source).step reached.job reached.state).reply =
      .assembled (.ok _) := assembled source
  obtain ⟨shape, -⟩ := shaped (.invocation source) _ (congrArg Job.Reply.invocation? reply)
  exact ⟨_, reply, shape.back, shape.front, rfl⟩

end BenchJob
