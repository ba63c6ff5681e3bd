import BenchJob.Proofs.Course
import BenchJob.Proofs.Path

/-!
# Which file a build launches

A launch looks for its app twice: the check follows the path of the app from the job's directory,
and the start takes the same text as the name of a program. The two agree as soon as there is a
slash in the path. Without an output directory and a configuration the path of an app is its bare
name, which is started from the directory of programs and nowhere else, so that a file may be
started which nobody has checked.

## Main statements

- `LocalBuild.slash_mem_pathOf`: the paths with a slash in them.
- `Files.walk_of_start`: a program that is named by such a path.
- `LocalBuild.launch_starts_checked`: the file that a launch starts.
- `LocalBuild.bare_launch_starts_unchecked`: a launch of another file.
-/

namespace BenchJob

/-! ## Paths with a slash in them -/

namespace LocalBuild

/-- The path of an app has a slash in it unless there is nothing in front of its bare name. -/
theorem slash_mem_pathOf {b : LocalBuild} {app : String} :
    '/' ∈ (b.pathOf app).toList ↔ b.outDir ≠ "" ∨ b.configuration ≠ "" ∨ '/' ∈ app.toList := by
  rw [pathOf, Path.slash_mem_join, ne_eq, Path.join_eq_empty_iff,
    Classical.not_and_iff_not_or_not, or_assoc]

theorem pathOf_of_empty {b : LocalBuild} (outDir : b.outDir = "")
    (configuration : b.configuration = "") (app : String) : b.pathOf app = app := by
  rw [pathOf, outDir, configuration, Path.join_empty, Path.join_empty]

end LocalBuild

/-! ## Programs -/

namespace Files

variable {t : Files} {r : Request} {started : Start} {p : Program}

/-- A program that runs in the job's own directory is found from there. -/
theorem findProgram_of_start (h : t.start r = .ok (started, p)) (here : r.dir = none) :
    t.findProgram (.directory []) r.program = .ok (.file started.file (.program p)) ∧
      started.dir = "" := by
  obtain ⟨dir, name, inDir, found, rfl⟩ := eq_of_start h
  simp only [workingDirectory, here, Except.ok.injEq] at inDir
  subst inDir
  exact ⟨found, rfl⟩

/-- A path with a slash in it names the program that it leads to. -/
theorem walk_of_start (h : t.start r = .ok (started, p)) (here : r.dir = none)
    (slash : '/' ∈ r.program.toList) :
    t.walk r.program = .ok (.file started.file (.program p)) := by
  have noNul : hasNul r.program = false := by
    unfold start at h
    split at h
    · cases h
    · rename_i clean
      simp only [Bool.or_eq_true, not_or] at clean
      simpa using clean.1.1
  have found := (findProgram_of_start h here).1
  rw [findProgram, if_pos (by simpa using slash)] at found
  rw [walk, noNul]
  exact found

/-- A bare name is looked up in the directory of programs. -/
theorem follow_of_start (h : t.start r = .ok (started, p)) (here : r.dir = none)
    (bare : '/' ∉ r.program.toList) :
    t.follow (.directory []) [programDirectory, r.program] =
      .ok (.file started.file (.program p)) := by
  have found := (findProgram_of_start h here).1
  rw [findProgram, if_neg (by simpa using bare)] at found
  split at found
  · cases found
  · exact found

end Files

/-! ## Launches -/

namespace LocalBuild

variable {b : LocalBuild} {w : World} {app : String} {args : List String} {t : Log}

/-- A launch that starts a program has found its app as a file, and starts it as it was asked to. -/
theorem Launched.start_of_mem_starts {r : Except Failure Outcome} {started : Start}
    (h : b.Launched w app args r t) (mem : started ∈ t.starts) :
    w.files.isFile (b.pathOf app) = true ∧
      ∃ p, w.files.start (b.request app args) = .ok (started, p) := by
  cases h with
  | missing absent => simp [Log.starts, Log.empty] at mem
  | refused present start => simp [Log.starts] at mem
  | @ended only p present start =>
    obtain rfl : started = only := by simpa [Log.starts] using mem
    exact ⟨present, p, start⟩

/-- A launch starts nothing without a file at the path of its app. What it starts runs in the job's
directory and gets the arguments. It is the file that was checked, unless nothing stands in front of
the app's bare name: then it is the file of that name in the directory of programs. -/
theorem launch_starts_checked (b : LocalBuild) (w : World) (app : String) (args : List String) :
    (w.files.isFile (b.pathOf app) = false → (b.launch w app args).trace.attempts = []) ∧
    ∀ started ∈ (b.launch w app args).trace.starts,
      w.files.isFile (b.pathOf app) = true ∧ started.dir = "" ∧ started.args = args ∧
      ∃ p, (b.outDir ≠ "" ∨ b.configuration ≠ "" ∨ '/' ∈ app.toList →
          w.files.walk (b.pathOf app) = .ok (.file started.file (.program p))) ∧
        (b.outDir = "" → b.configuration = "" → '/' ∉ app.toList →
          w.files.follow (.directory []) [programDirectory, app] =
            .ok (.file started.file (.program p))) := by
  obtain ⟨r, t, course, launch⟩ := launch_leaves b w app args
  rw [launch.trace_eq]
  constructor
  · intro absent
    cases course with
    | missing _ => rfl
    | refused present start => simp [absent] at present
    | ended present start => simp [absent] at present
  · intro started mem
    obtain ⟨present, p, start⟩ := course.start_of_mem_starts mem
    refine ⟨present, (Files.findProgram_of_start start rfl).2, Files.args_of_start start, p, ?_, ?_⟩
    · intro inFront
      have found := Files.walk_of_start start rfl (slash_mem_pathOf.2 inFront)
      exact found
    · intro outDir configuration bare
      have path : (b.request app args).program = app := pathOf_of_empty outDir configuration app
      have found := Files.follow_of_start start rfl (by rwa [path])
      rwa [path] at found

end LocalBuild

/-- A machine with an app in the job's directory, and with another program of that name. -/
def Sample.twoApps : World where
  home := none
  files := ⟨[("bench", .program ⟨Text.encode "checked\n", [], .exited 0⟩),
    ("bin/bench", .program ⟨Text.encode "unchecked\n", [], .exited 0⟩)], []⟩
  terminal := false

/-- With a directory in front of it, the app that is checked is the one that is started. -/
theorem LocalBuild.sample_launch_starts_checked :
    ∃ started ∈ ((LocalBuild.mk "bin" "").launch Sample.twoApps "bench" ["-i", "/res"]).trace.starts,
      started.args = ["-i", "/res"] ∧
      ∃ p, Sample.twoApps.files.walk "bin/bench" = .ok (.file started.file (.program p)) := by
  have once : ((LocalBuild.mk "bin" "").launch Sample.twoApps "bench"
      ["-i", "/res"]).trace.starts = [⟨"bin/bench", "", ["-i", "/res"]⟩] := by
    decide +kernel
  let started : Start := ⟨"bin/bench", "", ["-i", "/res"]⟩
  have mem : started ∈ ((LocalBuild.mk "bin" "").launch Sample.twoApps "bench"
      ["-i", "/res"]).trace.starts := by
    rw [once]
    exact List.mem_singleton_self started
  obtain ⟨-, -, args, p, checked, -⟩ :=
    (launch_starts_checked ⟨"bin", ""⟩ Sample.twoApps "bench" ["-i", "/res"]).2 started mem
  have path : (LocalBuild.mk "bin" "").pathOf "bench" = "bin/bench" := by
    decide +kernel
  have found := checked (.inl (by decide))
  rw [path] at found
  exact ⟨started, mem, args, p, found⟩

/-- A launch without an output directory and a configuration checks one file and starts another. -/
theorem LocalBuild.bare_launch_starts_unchecked :
    Sample.twoApps.files.isFile ((LocalBuild.mk "" "").pathOf "bench") = true ∧
      Sample.twoApps.files.walk ((LocalBuild.mk "" "").pathOf "bench") =
        .ok (.file "bench" (.program ⟨Text.encode "checked\n", [], .exited 0⟩)) ∧
      ((LocalBuild.mk "" "").launch Sample.twoApps "bench" ["-i", "/res"]).trace.starts =
        [⟨"bin/bench", "", ["-i", "/res"]⟩] := by
  refine ⟨by decide +kernel, ?_, by decide +kernel⟩
  rfl

end BenchJob
