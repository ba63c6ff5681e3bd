import BenchJob.Proofs.LocalBuild
import BenchJob.Proofs.Shell.CommandName

/-!
# The command line that is shown

A plan, the report of a run and the notice of a launch show one and the same line, the path of the
app and its arguments. Pasted into a shell, the line runs the app with these arguments, except in
one case: the path needs no quotes, and its first component starts with the name of a variable and
an equals sign. A shell reads such a path as an assignment and runs one of the arguments instead.

## Main definitions

- `LocalBuild.IsMisread`: the path of the build's app is read as an assignment.

## Main statements

- `LocalBuild.isMisread_iff`: the directories of such a build.
- `shown_command_names_app`: what a shell runs for the line that is shown.
- `plan_shows_assignment`: a plan whose line runs an argument.
-/

namespace BenchJob

open Shell (StartsAssignment)

/-! ## Paths of apps -/

/-- A joined path starts like an assignment if what stands first in it does. -/
theorem Path.startsAssignment_join {dir name : String} :
    StartsAssignment (join dir name).toList ↔ isAbsolute name = false ∧
      (dir = "" ∧ StartsAssignment name.toList ∨ dir ≠ "" ∧ StartsAssignment dir.toList) := by
  cases absolute : isAbsolute name with
  | true =>
    obtain ⟨rest, slash⟩ := List.head?_eq_some_iff.1 (beq_iff_eq.1 absolute)
    have atRoot : ¬ StartsAssignment name.toList := by
      rw [slash, ← List.nil_append ('/' :: rest), Shell.startsAssignment_append_slash]
      exact Shell.not_startsAssignment_nil
    simp [join_of_absolute absolute, atRoot]
  | false =>
    by_cases empty : dir = ""
    · simp [empty]
    · obtain ⟨front, chars, dirChars⟩ := exists_toList_entry dir name
      have inFront : StartsAssignment dir.toList ↔ StartsAssignment front := by
        rcases dirChars with same | slash
        · rw [same]
        · rw [slash, Shell.startsAssignment_append_slash]
      rw [join_of_relative absolute empty, chars, Shell.startsAssignment_append_slash]
      simp [empty, inFront]

namespace LocalBuild

variable {b : LocalBuild}

/-- The path of an app is no reserved word, since it ends in the name of the app. -/
theorem pathOf_notMem_reservedWords (b : LocalBuild) :
    b.pathOf benchApp ∉ Shell.reservedWords := by
  have other : ∀ word ∈ Shell.reservedWords, ¬ benchApp.toList <:+ word.toList := by
    decide
  exact fun mem => other _ mem (Path.suffix_join _ _)

/-- A shell takes the path of the build's app, as it is shown, for an assignment. -/
def IsMisread (b : LocalBuild) : Prop :=
  Shell.isQuoted (b.pathOf benchApp).toList = false ∧ StartsAssignment (b.pathOf benchApp).toList

/-- The path of the app is misread if the first directory of the build starts like an assignment and
nothing in the path needs quotes. -/
theorem isMisread_iff : b.IsMisread ↔
    (∀ c ∈ (b.pathOf benchApp).toList, Shell.isSpecial c = false) ∧
    Path.isAbsolute b.configuration = false ∧
    (b.outDir = "" ∧ StartsAssignment b.configuration.toList ∨
      b.outDir ≠ "" ∧ StartsAssignment b.outDir.toList) := by
  have relative : Path.isAbsolute benchApp = false := by decide
  have nothing : ¬ StartsAssignment "".toList := Shell.not_startsAssignment_nil
  have bare : ¬ StartsAssignment benchApp.toList := by
    rintro ⟨name, value, -, split⟩
    have equals : '=' ∈ benchApp.toList := by simp [split]
    exact absurd equals (by decide)
  have first : StartsAssignment (b.pathOf benchApp).toList ↔
      StartsAssignment (Path.join b.outDir b.configuration).toList := by
    rw [pathOf, Path.startsAssignment_join]
    constructor
    · rintro ⟨-, ⟨-, app⟩ | ⟨-, dir⟩⟩
      · exact absurd app bare
      · exact dir
    · intro dir
      refine ⟨relative, .inr ⟨?_, dir⟩⟩
      intro empty
      rw [empty] at dir
      exact nothing dir
  have unquoted : Shell.isQuoted (b.pathOf benchApp).toList = false ↔
      ∀ c ∈ (b.pathOf benchApp).toList, Shell.isSpecial c = false := by
    have nonempty : (b.pathOf benchApp).toList ≠ [] := by
      intro empty
      have ended := Path.suffix_join (Path.join b.outDir b.configuration) benchApp
      rw [pathOf] at empty
      rw [empty] at ended
      exact absurd (List.suffix_nil.1 ended) (by decide)
    simp [Shell.isQuoted, nonempty]
  rw [IsMisread, unquoted, first, Path.startsAssignment_join]

end LocalBuild

/-! ## What is shown -/

section

variable {w : World} {o : StepOptions} {s : Settings} {b : LocalBuild}

/-- A plan shows the path of the app with the arguments that it lists. -/
theorem command_of_planJob (settings : (settingsOf w o).result = .ok s)
    (build : s.localBuild = .ok b) {plan : PlanReport} (h : (planJob w o).result = .ok plan) :
    plan.command = Shell.render (b.pathOf benchApp) plan.invocation.args := by
  rw [(planJob_of_settled settings).result_eq] at h
  cases assembly : s.assembled w with
  | error f =>
    rw [assembly] at h
    cases h
  | ok i =>
    rw [assembly] at h
    obtain rfl := Except.ok.inj h
    simp [Settings.planReport, shownProgram_of_build build, Settings.app_of_assembled assembly]

/-- The report of a run shows the path of the app with the arguments that it lists. -/
theorem command_of_runJob (settings : (settingsOf w o).result = .ok s)
    (build : s.localBuild = .ok b) {report : RunReport} (h : (runJob w o).result = .ok report) :
    report.plan.command = Shell.render (b.pathOf benchApp) report.plan.invocation.args := by
  obtain ⟨result, trace, course, run⟩ := runJob_leaves w o
  rw [run.result_eq] at h
  subst h
  cases course with
  | @finished found built i outcome t settings' build' assembly launch =>
    obtain rfl : s = found := Except.ok.inj (settings.symm.trans settings')
    simp [Settings.planReport, shownProgram_of_build build, Settings.app_of_assembled assembly]

/-- The first thing that a launch does is to tell the line. -/
theorem notice_of_launch (b : LocalBuild) (args : List String)
    (present : w.files.isFile (b.pathOf benchApp) = true) :
    ∃ behind, (b.launch w benchApp args).trace =
      w.told [.starting (Shell.render (b.pathOf benchApp) args)] ++ behind := by
  obtain ⟨result, trace, course, launch⟩ := b.launch_leaves w benchApp args
  rw [launch.trace_eq]
  cases course with
  | missing absent => simp [absent] at present
  | refused present start => exact ⟨_, rfl⟩
  | ended present start => exact ⟨_, rfl⟩

end

/-- A plan, a run and the notice of a launch show one line. A shell runs the app for it with its
arguments, unless the path of the app is read as an assignment: then the name of the command is one
of the arguments, or there is none. A plan without a build shows the name of the app, and that is
read as a command. -/
theorem shown_command_names_app (b : LocalBuild) :
    (¬ b.IsMisread → ∀ args, Shell.command? (Shell.render (b.pathOf benchApp) args) =
      some ⟨[], b.pathOf benchApp :: args⟩) ∧
    (b.IsMisread → ∀ args, ∃ assignment others words,
      Shell.command? (Shell.render (b.pathOf benchApp) args) =
        some ⟨assignment :: others, words⟩ ∧ words <:+ args) ∧
    (b.IsMisread ↔ (∀ c ∈ (b.pathOf benchApp).toList, Shell.isSpecial c = false) ∧
      Path.isAbsolute b.configuration = false ∧
      (b.outDir = "" ∧ StartsAssignment b.configuration.toList ∨
        b.outDir ≠ "" ∧ StartsAssignment b.outDir.toList)) ∧
    (∀ w o s, (settingsOf w o).result = .ok s → s.localBuild = .ok b →
      (∀ plan, (planJob w o).result = .ok plan →
        plan.command = Shell.render (b.pathOf benchApp) plan.invocation.args) ∧
      (∀ report, (runJob w o).result = .ok report →
        report.plan.command = Shell.render (b.pathOf benchApp) report.plan.invocation.args)) ∧
    (∀ (w : World) args, w.files.isFile (b.pathOf benchApp) = true →
      ∃ behind, (b.launch w benchApp args).trace =
        w.told [.starting (Shell.render (b.pathOf benchApp) args)] ++ behind) ∧
    ∀ args, Shell.command? (Shell.render benchApp args) = some ⟨[], benchApp :: args⟩ := by
  have unreserved := b.pathOf_notMem_reservedWords
  refine ⟨?_, ?_, LocalBuild.isMisread_iff, ?_, ?_, ?_⟩
  · intro named args
    exact Shell.command?_render_of_named unreserved named args
  · rintro ⟨unquoted, assigned⟩ args
    exact Shell.command?_render_of_assigned unreserved unquoted assigned args
  · intro w o s settings build
    exact ⟨fun plan => command_of_planJob settings build,
      fun report => command_of_runJob settings build⟩
  · intro w args present
    exact notice_of_launch b args present
  · -- The name by itself is the path of the app in a build without directories.
    have bare : (LocalBuild.mk "" "").pathOf benchApp = benchApp :=
      LocalBuild.pathOf_of_empty rfl rfl benchApp
    intro args
    rw [← bare]
    apply Shell.command?_render_of_named (LocalBuild.pathOf_notMem_reservedWords _)
    rintro ⟨-, name, value, -, split⟩
    have equals : '=' ∈ ((LocalBuild.mk "" "").pathOf benchApp).toList := by simp [split]
    exact absurd equals (by decide +kernel)

def Sample.assigning : StepOptions where
  configFile := none
  flags := { Config.empty with
    builder := some "Perf"
    revision := some "r1"
    resourceDir := some "/res"
    outDir := some "A=B" }

/-- The line of a plan whose output directory starts like an assignment does not run the app: the
command that a shell finds in it is the first argument. -/
theorem plan_shows_assignment :
    (planJob Sample.machine Sample.assigning).result.toOption.map (·.command) =
      some "A=B/Release/bench -i /res" ∧
    Shell.command? "A=B/Release/bench -i /res" =
      some ⟨[("A", "B/Release/bench")], ["-i", "/res"]⟩ := by
  constructor
  · decide +kernel
  · decide +kernel

end BenchJob
