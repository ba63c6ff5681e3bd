import Mathlib.Tactic.SplitIfs
import BenchJob.Proofs.Apps

/-!
# What the exit code tells

The exit code of a run is a chain of three mappings: of the app's ending to an exit code, of that to
the exit code of the job, and of that to the eight bits that the operating system is given. The last
one sends every negative code to 0, so that only the second one keeps an app that was killed from
looking like one that succeeded.

## Main statements

- `toNat_processCode_ofExitCode`: the chain behind the ending.
- `processCode_failure`: the exit code of a failure.
- `processCode_execute`: what the exit code of an execution tells.
-/

namespace BenchJob

/-! ## The mappings -/

theorem toNat_processCode (code : Int) :
    ((processCode code).toNat : Int) = max 0 (min code 255) := by
  unfold processCode
  split_ifs with low high
  · simp only [UInt8.toNat_zero]
    omega
  · have top : (255 : UInt8).toNat = 255 := rfl
    rw [top]
    omega
  · rw [UInt8.toNat_ofNat']
    omega

/-- An app that did not succeed keeps its positive code, up to the largest one. -/
theorem toNat_processCode_unsuccessful {o : Outcome} (h : o.success = false) :
    ((processCode o.jobCode).toNat : Int) = if 0 < o.exitCode then min o.exitCode 255 else 1 := by
  rw [toNat_processCode]
  by_cases positive : 0 < o.exitCode
  · have kept : o.jobCode = o.exitCode := by simp [Outcome.jobCode, h, positive]
    rw [kept, if_pos positive]
    omega
  · have one : o.jobCode = 1 := by simp [Outcome.jobCode, h, positive]
    rw [one, if_neg positive]
    omega

theorem toNat_processCode_ofExitCode (code : Int) :
    ((processCode (Outcome.ofExitCode code).jobCode).toNat : Int) =
      if code < 0 then 1 else min code 255 := by
  by_cases zero : code = 0
  · subst zero
    rfl
  · have unsuccessful : (Outcome.ofExitCode code).success = false := by
      simpa [Outcome.ofExitCode] using zero
    rw [toNat_processCode_unsuccessful unsuccessful]
    simp only [Outcome.ofExitCode]
    split_ifs <;> omega

theorem processCode_exited (code : UInt8) :
    processCode (Outcome.ofExitCode (Ending.exited code).exitCode).jobCode = code := by
  have kept := toNat_processCode_ofExitCode (Ending.exited code).exitCode
  have bound : code.toNat < 256 := code.toNat_lt
  have positive : ¬ (code.toNat : Int) < 0 := by omega
  rw [show (Ending.exited code).exitCode = code.toNat from rfl] at kept ⊢
  rw [if_neg positive] at kept
  apply UInt8.toNat_inj.1
  omega

theorem processCode_killed (signal : Int) :
    processCode (Outcome.ofExitCode (Ending.killed signal).exitCode).jobCode = 1 := rfl

/-- An ending looks like success exactly if it is one. -/
theorem processCode_ending_eq_zero_iff {e : Ending} :
    processCode (Outcome.ofExitCode e.exitCode).jobCode = 0 ↔ e = .exited 0 := by
  cases e with
  | exited code => rw [processCode_exited, Ending.exited.injEq]
  | killed signal => simp [processCode_killed]

/-- The code of a failure alone decides the exit code, which is never 0. -/
theorem processCode_failure (code : Failure.Code) :
    processCode code.exitCode ≠ 0 ∧
      ("config.".toList <+: code.text.toList ∨ "validation.".toList <+: code.text.toList →
        processCode code.exitCode = 2) ∧
      (code.text = "git.command_failed" → processCode code.exitCode = 20) ∧
      ("internal.".toList <+: code.text.toList → processCode code.exitCode = 1) := by
  cases code <;> decide

/-! ## Executions -/

namespace Command.Ended

variable {r : Except Failure (Json × Int)} {apps : List Program}

/-- A run hands on how its app ended. One without an app has failed, and tells that. -/
theorem processCode_run {o : StepOptions} (h : (Command.run o).Ended r apps) :
    (processCode (Answer.ofResult r).exitCode = 0 ↔ ∃ p ∈ apps, p.ending = .exited 0) ∧
      ∀ p ∈ apps,
        (∀ code, p.ending = .exited code → processCode (Answer.ofResult r).exitCode = code) ∧
        ∀ signal, p.ending = .killed signal →
          processCode (Answer.ofResult r).exitCode = 1 := by
  cases h with
  | failed f => simpa [Answer.ofResult, Answer.ofFailure] using (processCode_failure f.code).1
  | ran data p =>
    simp only [List.mem_singleton, exists_eq_left, forall_eq]
    refine ⟨processCode_ending_eq_zero_iff, fun code exited => ?_, fun signal killed => ?_⟩
    · simp only [Answer.ofResult, Answer.ofPayload, exited, processCode_exited]
    · simp only [Answer.ofResult, Answer.ofPayload, killed, processCode_killed]
  | answered data other => exact absurd rfl (other o)

/-- No other command asks for an exit code of its own. -/
theorem exitCode_of_ok {c : Command} {data : Json × Int} (h : c.Ended (.ok data) apps)
    (noRun : ∀ o, c ≠ .run o) : data.2 = 0 := by
  cases h with
  | @ran o data p => exact absurd rfl (noRun o)
  | answered data other => rfl

end Command.Ended

/-- The exit code of an execution tells the truth. That of a run is 0 exactly if its app was started
and exited with 0; otherwise it is the exit code of the app, or 1 if a signal ended the app. An
envelope with an error fixes the exit code by its code, never at 0, and a plan or a list of the
overrides that succeeds ends with 0. Standard output has no influence on this, nor on what was
started. Whatever ran an app, a positive exit code is kept, or cut down to 255, and a negative one
becomes 1. -/
theorem processCode_execute (w : World) (sink : Sink) (c : Command) :
    (∀ o, c = .run o →
      ((execute w sink c).processCode = 0 ↔
        ∃ p ∈ (execute w sink c).log.apps w, p.ending = .exited 0) ∧
      ∀ p ∈ (execute w sink c).log.apps w,
        (∀ code, p.ending = .exited code → (execute w sink c).processCode = code) ∧
        ∀ signal, p.ending = .killed signal → (execute w sink c).processCode = 1) ∧
    (∀ code, (execute w sink c).FailsWith code →
      (execute w sink c).processCode ≠ 0 ∧
      ("config.".toList <+: code.toList ∨ "validation.".toList <+: code.toList →
        (execute w sink c).processCode = 2) ∧
      (code = "git.command_failed" → (execute w sink c).processCode = 20) ∧
      ("internal.".toList <+: code.toList → (execute w sink c).processCode = 1)) ∧
    ((∀ o, c ≠ .run o) → (execute w sink c).Succeeds → (execute w sink c).processCode = 0) ∧
    (∀ other, (execute w other c).processCode = (execute w sink c).processCode ∧
      (execute w other c).log.attempts = (execute w sink c).log.attempts) ∧
    (∀ code : Int, ((processCode (Outcome.ofExitCode code).jobCode).toNat : Int) =
      if code < 0 then 1 else min code 255) ∧
    ∀ outcome : Outcome, outcome.success = false →
      ((processCode outcome.jobCode).toNat : Int) =
        if 0 < outcome.exitCode then min outcome.exitCode 255 else 1 := by
  obtain ⟨r, answer, ended⟩ := execute_ended w sink c
  have asked : (execute w sink c).processCode = processCode (Answer.ofResult r).exitCode := by
    rw [Execution.processCode, answer]
  generalize (execute w sink c).log.apps w = apps at ended ⊢
  refine ⟨?_, ?_, ?_, fun other => ⟨rfl, rfl⟩, toNat_processCode_ofExitCode,
    fun outcome => toNat_processCode_unsuccessful⟩
  · rintro o rfl
    rw [asked]
    exact ended.processCode_run
  · intro code fails
    rw [asked]
    obtain ⟨f, rfl, rfl⟩ := (Execution.failsWith_iff answer).1 fails
    exact processCode_failure f.code
  · intro noRun succeeds
    rw [asked]
    obtain ⟨data, rfl⟩ := (Execution.succeeds_iff answer).1 succeeds
    simp only [Answer.ofResult, Answer.ofPayload, ended.exitCode_of_ok noRun]
    rfl

/-- The sample run hands on the 3 with which its app ends, also where nobody reads its answer. A
list of all overrides ends with 0, also where there is no space left for it. -/
theorem sample_processCode_execute :
    (∃ p ∈ (execute Sample.machine .closed (.run Sample.options)).log.apps Sample.machine,
      p.ending = .exited 3) ∧
    (execute Sample.machine .closed (.run Sample.options)).processCode = 3 ∧
    (execute Sample.machine .full (.overrides none)).processCode = 0 := by
  have endings : ((execute Sample.machine .closed (.run Sample.options)).log.apps
      Sample.machine).map (·.ending) = [.exited 3] := by
    decide +kernel
  have app : .exited 3 ∈ ((execute Sample.machine .closed (.run Sample.options)).log.apps
      Sample.machine).map (·.ending) := by
    simp [endings]
  obtain ⟨p, launched, exited⟩ := List.mem_map.1 app
  obtain ⟨run, -⟩ := processCode_execute Sample.machine .closed (.run Sample.options)
  obtain ⟨-, -, list, -⟩ := processCode_execute Sample.machine .full (.overrides none)
  have listed : (execute Sample.machine .full (.overrides none)).Succeeds :=
    (Execution.succeeds_iff (execute_eq (data_overrides_leaves _ none) .full).1).2 ⟨_, rfl⟩
  exact ⟨⟨p, launched, exited⟩, ((run _ rfl).2 p launched).1 3 exited,
    list (fun o => by simp) listed⟩

end BenchJob
