import BenchJob.Commit
import BenchJob.LocalBuild
import BenchJob.Proofs.Trace

/-!
# Whom a job works with

A job asks the version control program for the time of a commit and has its app launched. Each of
the two makes at most one attempt to start a program, and the request of an attempt tells them
apart: the question is put in the directory of the checkout, and the app runs in the job's own.

## Main definitions

- `Commit.Printed`: the time that the version control program prints.
- `LocalBuild.Launched`: the ways in which a launch can end.

## Main statements

- `Commit.timestamp_leaves`, `Commit.answer_eq_ok_iff`: the answer to the question.
- `LocalBuild.launch_leaves`: a launch ends in one of these ways.
-/

namespace BenchJob

/-! ## The time of a commit -/

namespace Commit

/-- The version control program is started in the checkout, succeeds and prints the time. -/
def Printed (w : World) (dir : String) (seconds : Int) : Prop :=
  ∃ start p, w.files.start (request dir) = .ok (start, p) ∧ p.ending = .exited 0 ∧
    parseTimestamp? (Text.strip (Text.decodeLossy p.stdout)) = some seconds

def understood (answer : String) : Except Failure Int :=
  match parseTimestamp? answer with
  | some seconds => .ok seconds
  | none => .error (unexpectedAnswer answer)

variable (w : World) (dir : String)

/-- What the question for the time of a commit comes to. -/
def answer : Except Failure Int :=
  match w.captured (request dir) "git log" with
  | .ok text => understood text
  | .error cause => .error (noAnswer dir cause)

/-- The question is put once, whatever it comes to. -/
theorem timestamp_leaves :
    (timestamp w dir).Leaves (answer w dir)
      (.ofAttempt (request dir) (w.started (request dir))) := by
  have asked := w.capture_leaves (request dir) "git log"
  rw [← Log.append_empty (.ofAttempt _ _)]
  unfold timestamp answer
  cases h : w.captured (request dir) "git log" with
  | error cause =>
    rw [h] at asked
    have refused := asked.catch_error (g := fun cause => throw (noAnswer dir cause)) (.throw _)
    rw [Log.append_empty] at refused
    simpa using refused.bind_error
  | ok text =>
    rw [h] at asked
    refine asked.catch_ok.bind_ok ?_
    cases parsed : parseTimestamp? text with
    | some seconds =>
      simp only [understood, parsed]
      exact .pure _
    | none =>
      simp only [understood, parsed]
      exact .throw _

variable {w dir}

theorem understood_eq_ok_iff {text : String} {seconds : Int} :
    understood text = .ok seconds ↔ parseTimestamp? text = some seconds := by
  unfold understood
  cases parseTimestamp? text <;> simp

/-- The answer is the time that the version control program prints. -/
theorem answer_eq_ok_iff {seconds : Int} :
    answer w dir = .ok seconds ↔ Printed w dir seconds := by
  constructor
  · intro h
    unfold answer at h
    cases output : w.captured (request dir) "git log" with
    | error cause => simp [output] at h
    | ok text =>
      rw [output] at h
      obtain ⟨start, p, started, succeeded, rfl⟩ := World.captured_eq_ok_iff.1 output
      exact ⟨start, p, started, succeeded, understood_eq_ok_iff.1 h⟩
  · rintro ⟨start, p, started, succeeded, parsed⟩
    have output : w.captured (request dir) "git log" =
        .ok (Text.strip (Text.decodeLossy p.stdout)) :=
      World.captured_eq_ok_iff.2 ⟨start, p, started, succeeded, rfl⟩
    unfold answer
    rw [output]
    exact understood_eq_ok_iff.2 parsed

/-- A question without an answer fails with a code of its own. -/
theorem code_of_answer {f : Failure} (h : answer w dir = .error f) :
    f.code = .gitCommandFailed := by
  unfold answer understood at h
  repeat' split at h
  all_goals cases h
  all_goals rfl

end Commit

/-! ## Launching an app -/

/-- Is it an app that is asked for? It runs in the job's own directory, while the question for the
time of a commit is put in the checkout. -/
def Request.isLaunch (r : Request) : Bool := r.dir.isNone

def Log.launches (log : Log) : List Start :=
  log.attempts.filterMap fun attempt => if attempt.1.isLaunch then attempt.2.toOption else none

@[simp] theorem Log.launches_append (a b : Log) : (a ++ b).launches = a.launches ++ b.launches := by
  simp [launches]

theorem Log.launches_of_attempts {log : Log} (h : log.attempts = []) : log.launches = [] := by
  simp [launches, h]

@[simp] theorem Log.launches_told (w : World) (notices : List Notice) :
    (w.told notices).launches = [] := rfl

@[simp] theorem Log.launches_ofProgram (p : Program) : (Log.ofProgram p).launches = [] := rfl

/-- A program that is started is the one that its name leads to, and gets the arguments. -/
theorem Files.eq_of_start {t : Files} {r : Request} {started : Start} {p : Program}
    (h : t.start r = .ok (started, p)) : ∃ dir name, t.workingDirectory r = .ok dir ∧
      t.findProgram dir r.program = .ok (.file name (.program p)) ∧
      started = ⟨name, dir.path, r.args⟩ := by
  unfold Files.start at h
  split at h
  · cases h
  · obtain ⟨dir, inDir, h⟩ := ok_of_bind_eq_ok h
    obtain ⟨target, found, h⟩ := ok_of_bind_eq_ok h
    split at h
    · cases h
      exact ⟨dir, _, inDir, found, rfl⟩
    · cases h

theorem Files.args_of_start {t : Files} {r : Request} {started : Start} {p : Program}
    (h : t.start r = .ok (started, p)) : started.args = r.args := by
  obtain ⟨dir, name, -, -, rfl⟩ := Files.eq_of_start h
  rfl

namespace LocalBuild

def request (b : LocalBuild) (app : String) (args : List String) : Request :=
  ⟨b.pathOf app, args, none⟩

@[simp] theorem launches_refused (b : LocalBuild) (app : String) (args : List String)
    (e : OsError) : (Log.ofAttempt (b.request app args) (.error e)).launches = [] := rfl

@[simp] theorem launches_started (b : LocalBuild) (app : String) (args : List String)
    (started : Start) :
    (Log.ofAttempt (b.request app args) (.ok started)).launches = [started] := rfl

def endNotices (app : String) (code : Int) : List Notice :=
  if code = 0 then [] else [.exited app code]

/-- The ways in which the launch of an app can end: the app is not there as a file, or it cannot be
started, or it runs and ends. -/
inductive Launched (b : LocalBuild) (w : World) (app : String) (args : List String) :
    Except Failure Outcome → Log → Prop where
  | missing (absent : w.files.isFile (b.pathOf app) = false) :
      Launched b w app args (.error (b.missing app)) .empty
  | refused {e : OsError} (present : w.files.isFile (b.pathOf app) = true)
      (start : w.files.start (b.request app args) = .error e) :
      Launched b w app args (.error (World.startFailure app e))
        (w.told [.starting (Shell.render (b.pathOf app) args)] ++
          .ofAttempt (b.request app args) (.error e))
  | ended {started : Start} {p : Program} (present : w.files.isFile (b.pathOf app) = true)
      (start : w.files.start (b.request app args) = .ok (started, p)) :
      Launched b w app args (.ok (.ofExitCode p.ending.exitCode))
        (w.told [.starting (Shell.render (b.pathOf app) args)] ++
          (.ofAttempt (b.request app args) (.ok started) ++ .ofProgram p ++
            w.told (endNotices app p.ending.exitCode)))

namespace Launched

variable {b : LocalBuild} {w : World} {app : String} {args : List String} {t : Log}

/-- A launch that fails has launched nothing, and the app is missing or could not be started. -/
theorem of_error {f : Failure} (h : b.Launched w app args (.error f) t) :
    t.launches = [] ∧ f.code = .ioError ∧
      (w.files.isFile (b.pathOf app) = false ∧ f = b.missing app ∨
        ∃ e, w.files.start (b.request app args) = .error e ∧ f = World.startFailure app e) := by
  cases h with
  | missing absent => exact ⟨rfl, rfl, .inl ⟨absent, rfl⟩⟩
  | refused present start => exact ⟨by simp, rfl, .inr ⟨_, start, rfl⟩⟩

/-- A launch that succeeds has launched the app once. -/
theorem of_ok {outcome : Outcome} (h : b.Launched w app args (.ok outcome) t) :
    ∃ started p, w.files.start (b.request app args) = .ok (started, p) ∧
      outcome = .ofExitCode p.ending.exitCode ∧ t.launches = [started] := by
  cases h with
  | ended present start => exact ⟨_, _, start, rfl, by simp⟩

/-- A launch makes at most one attempt, with the request for the app. -/
theorem attempts {r : Except Failure Outcome} (h : b.Launched w app args r t) :
    t.attempts.length ≤ 1 ∧ ∀ a ∈ t.attempts, a.1 = b.request app args := by
  cases h <;> simp

end Launched

/-- The notice on an app that ended is told, if there is one, and its exit code is handed on. -/
theorem endNotices_leaves (w : World) (app : String) (code : Int) :
    Act.Leaves (do
        if code ≠ 0 then
          w.tell (.exited app code)
        return Outcome.ofExitCode code)
      (.ok (.ofExitCode code)) (w.told (endNotices app code)) := by
  unfold endNotices
  by_cases h : code = 0
  · simp only [h, ne_eq, not_true_eq_false, if_false, if_true, w.told_nil]
    exact .pure _
  · simp only [h, ne_eq, not_false_eq_true, if_true, if_false]
    rw [← Log.append_empty (w.told _)]
    exact (w.tell_leaves _).bind_ok (.pure _)

/-- A launch ends in one of these ways. -/
theorem launch_leaves (b : LocalBuild) (w : World) (app : String) (args : List String) :
    ∃ result trace, b.Launched w app args result trace ∧
      (b.launch w app args).Leaves result trace := by
  unfold launch
  cases present : w.files.isFile (b.pathOf app) with
  | false => exact ⟨_, _, .missing present, (Act.Leaves.throw (b.missing app)).bind_error⟩
  | true =>
    simp only [if_pos]
    have told := w.tell_leaves (.starting (Shell.render (b.pathOf app) args))
    cases start : w.files.start (b.request app args) with
    | error e =>
      exact ⟨_, _, .refused present start,
        told.bind_ok (World.passThrough_refused start app).bind_error⟩
    | ok found =>
      obtain ⟨started, p⟩ := found
      exact ⟨_, _, .ended present start, told.bind_ok
        ((World.passThrough_started start app).bind_ok (endNotices_leaves w app _))⟩

end LocalBuild

end BenchJob
