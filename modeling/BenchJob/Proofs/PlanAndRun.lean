import BenchJob.Proofs.Course

/-!
# A plan shows what a run does

A plan and a run do the same up to the launch: with the output directory set, they come to the same
failure without a launch, or to the same report, and then the app is launched with the arguments
that the plan shows. Only the launch itself can make the run fail where the plan does not. Without
an output directory there is no run at all.

## Main statements

- `plan_agrees_with_run`: the agreement, for every machine and every command line.
-/

namespace BenchJob

/-- A plan shows what a run does. With the output directory set, a run fails where the plan fails,
in the same way and without a launch; where there is a plan, either the launch fails, or the run has
the same report and its app was launched with the planned arguments. Without an output directory a
run starts nothing. -/
theorem plan_agrees_with_run (w : World) (o : StepOptions) :
    ((∀ c, o.layers w = .ok c → c.outDir ≠ none) →
      (∀ f, (planJob w o).result = .error f →
        (runJob w o).result = .error f ∧ (runJob w o).trace.launches = []) ∧
      (∀ plan, (planJob w o).result = .ok plan →
        ∃ s b, (settingsOf w o).result = .ok s ∧ s.localBuild = .ok b ∧
          ((∃ f, (runJob w o).result = .error f ∧ (runJob w o).trace.launches = [] ∧
              f.code = .ioError ∧
              (w.files.isFile (b.pathOf benchApp) = false ∧ f = b.missing benchApp ∨
                ∃ e, w.files.start (b.request benchApp plan.invocation.args) = .error e ∧
                  f = World.startFailure benchApp e)) ∨
            ∃ started p,
              w.files.start (b.request benchApp plan.invocation.args) = .ok (started, p) ∧
              (runJob w o).result = .ok ⟨plan, .ofExitCode p.ending.exitCode⟩ ∧
              (runJob w o).trace.launches = [started] ∧
              started.args = plan.invocation.args))) ∧
    (∀ c s, o.layers w = .ok c → c.resolve w.home = .ok s → c.outDir = none →
      (runJob w o).result = .error (.missingArguments ["out_dir"]) ∧
        (runJob w o).trace.attempts = []) := by
  refine ⟨fun outDirSet => ?_, fun c s layers resolved unset => ?_⟩
  · obtain ⟨result, trace, course, run⟩ := runJob_leaves w o
    rw [run.result_eq, run.trace_eq]
    -- Each course of the run knows the settings, and these fix what the plan comes to.
    cases course with
    | unsettled settings =>
      rw [(planJob_of_unsettled settings).result_eq]
      refine ⟨?_, fun plan h => (nomatch h)⟩
      rintro _ ⟨⟩
      exact ⟨rfl, launches_trace_settingsOf⟩
    | @unbuilt s settings build =>
      obtain ⟨c, layers, resolved⟩ := result_settingsOf_eq_ok_iff.1 settings
      have unset : c.outDir = none := by
        simpa [Config.outDir_of_resolve resolved] using build
      exact absurd unset (outDirSet c layers)
    | unassembled settings build assembly =>
      rw [(planJob_of_settled settings).result_eq, assembly]
      refine ⟨?_, fun plan h => (nomatch h)⟩
      rintro _ ⟨⟩
      exact ⟨rfl, by simp⟩
    | @unlaunched s b i f t settings build assembly launch =>
      rw [(planJob_of_settled settings).result_eq, assembly]
      rw [Settings.app_of_assembled assembly] at launch
      obtain ⟨none, code, cause⟩ := launch.of_error
      refine ⟨fun f h => (nomatch h), ?_⟩
      rintro _ ⟨⟩
      exact ⟨s, b, settings, build, .inl ⟨f, rfl, by simp [none], code, cause⟩⟩
    | @finished s b i outcome t settings build assembly launch =>
      rw [(planJob_of_settled settings).result_eq, assembly]
      rw [Settings.app_of_assembled assembly] at launch
      obtain ⟨started, p, start, rfl, once⟩ := launch.of_ok
      refine ⟨fun f h => (nomatch h), ?_⟩
      rintro _ ⟨⟩
      exact ⟨s, b, settings, build, .inr ⟨started, p, start, rfl, by simp [once],
        Files.args_of_start start⟩⟩
  · have settings := result_settingsOf_eq_ok_iff.2 ⟨c, layers, resolved⟩
    have unbuilt : s.outDir = none := by
      simp [Config.outDir_of_resolve resolved, unset]
    have run := runJob_of_unbuilt settings unbuilt
    rw [run.result_eq, run.trace_eq]
    exact ⟨rfl, attempts_trace_settingsOf w o⟩

/-- The sample run has the report of its plan, and its app was launched with the planned arguments.
Without the output directory nothing is attempted. -/
theorem sample_plan_agrees_with_run :
    (∃ plan started, (planJob Sample.machine Sample.options).result = .ok plan ∧
      (runJob Sample.machine Sample.options).result = .ok ⟨plan, ⟨3, false⟩⟩ ∧
      (runJob Sample.machine Sample.options).trace.launches = [started] ∧
      started.args = plan.invocation.args) ∧
    (runJob Sample.machine Sample.unbuilt).trace.attempts = [] := by
  have outDirSet : ∀ c, Sample.options.layers Sample.machine = .ok c → c.outDir ≠ none := by
    intro c layers
    obtain rfl := Except.ok.inj ((Sample.layers Sample.options.flags).symm.trans layers)
    decide
  have ran : (runJob Sample.machine Sample.options).result.toOption.map (·.outcome) =
      some ⟨3, false⟩ := by
    decide +kernel
  obtain ⟨fails, agrees⟩ := (plan_agrees_with_run Sample.machine Sample.options).1 outDirSet
  refine ⟨?_, ?_⟩
  · cases planned : (planJob Sample.machine Sample.options).result with
    | error f =>
      rw [(fails f planned).1] at ran
      cases ran
    | ok plan =>
      obtain ⟨s, b, -, -, ⟨f, failed, -⟩ | ⟨started, p, -, reported, launched, args⟩⟩ :=
        agrees plan planned
      · rw [failed] at ran
        cases ran
      · rw [reported] at ran
        have outcome : Outcome.ofExitCode p.ending.exitCode = ⟨3, false⟩ := Option.some.inj ran
        refine ⟨plan, started, rfl, ?_, launched, args⟩
        rw [reported, outcome]
  · have layers := Sample.layers Sample.unbuilt.flags
    exact ((plan_agrees_with_run Sample.machine Sample.unbuilt).2 _ _ layers rfl rfl).2

end BenchJob
