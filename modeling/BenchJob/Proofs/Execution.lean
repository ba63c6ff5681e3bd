import BenchJob.Proofs.Course

/-!
# Executions from outside

An execution tells that it has begun, carries its command out, and answers with an envelope. What
the command comes to and what it leaves behind determine the whole execution, and the envelope says
which of both ends it came to.

## Main definitions

- `Json.member?`: a member of an object.
- `Execution.envelope`, `Execution.Succeeds`, `Execution.FailsWith`: the answer, and what it says.

## Main statements

- `execute_eq`: an execution in terms of the result and the trace of its command.
- `data_run_leaves`, `data_plan_leaves`, `data_overrides_leaves`: the commands.
-/

namespace BenchJob

/-! ## Commands -/

variable {w : World} {o : StepOptions}

theorem data_run_leaves {r : Except Failure RunReport} {t : Log} (h : (runJob w o).Leaves r t) :
    ((Command.run o).data w).Leaves
      (r.map fun report => (report.toJson, report.outcome.jobCode)) t :=
  h.map fun report => (report.toJson, report.outcome.jobCode)

theorem data_plan_leaves {r : Except Failure PlanReport} {t : Log} (h : (planJob w o).Leaves r t) :
    ((Command.plan o).data w).Leaves (r.map fun report => (report.toJson, 0)) t :=
  h.map fun report => (report.toJson, 0)

theorem data_overrides_leaves (w : World) (builder : Option String) :
    ((Command.overrides builder).data w).Leaves
      (.ok ((OverridesReport.ofBuilder builder).toJson, 0)) .empty :=
  .pure _

theorem Answer.result_ofResult (r : Except Failure (Json × Int)) :
    (Answer.ofResult r).result = r.map (·.1) := by
  cases r <;> rfl

/-- An execution begins with a notice and then does what its command does. -/
theorem execute_eq {c : Command} {r : Except Failure (Json × Int)} {t : Log}
    (h : (c.data w).Leaves r t) (sink : Sink) :
    (execute w sink c).answer = .ofResult r ∧
      (execute w sink c).log = w.told [.working] ++ t := by
  have performed : (c.perform w).run .empty = (.ofResult r, w.told [.working] ++ t) := by
    unfold Command.perform
    rw [StateT.run_bind, w.run_tell, Log.empty_append]
    show (Answer.ofResult ((c.data w).exec (w.told [.working])).1,
      ((c.data w).exec (w.told [.working])).2) = _
    rw [h]
  simp [execute, performed]

/-! ## Envelopes -/

def Json.member? (key : String) : Json → Option Json
  | .obj members => (members.find? fun member => member.1 = key).map (·.2)
  | _ => none

namespace Execution

def envelope (e : Execution) : Json := Envelope.value e.answer.result

def Succeeds (e : Execution) : Prop := e.envelope.member? "success" = some (.bool true)

/-- The envelope has an error with this code. -/
def FailsWith (e : Execution) (code : String) : Prop :=
  (e.envelope.member? "error").bind (Json.member? "code") = some (.str code)

variable {e : Execution} {r : Except Failure (Json × Int)}

/-- The envelope tells of success exactly if the command came to data. -/
theorem succeeds_iff (answer : e.answer = .ofResult r) : e.Succeeds ↔ ∃ data, r = .ok data := by
  unfold Succeeds envelope
  rw [answer, Answer.result_ofResult]
  cases r with
  | ok data => simp [Envelope.value, Json.member?, Except.map]
  | error f => simp [Envelope.value, Json.member?, Except.map]

/-- The error of the envelope is the failure to which the command came. -/
theorem failsWith_iff (answer : e.answer = .ofResult r) {code : String} :
    e.FailsWith code ↔ ∃ f, r = .error f ∧ f.code.text = code := by
  unfold FailsWith envelope
  rw [answer, Answer.result_ofResult]
  cases r with
  | ok data => simp [Envelope.value, Json.member?, Except.map]
  | error f => simp [Envelope.value, Envelope.ofFailure, Json.member?, Except.map]

end Execution

theorem Sample.length_launches :
    (execute machine .writable (.run options)).log.launches.length = 1 := by
  decide +kernel

end BenchJob
