import BenchJob.Command
import BenchJob.Commit
import BenchJob.Config.Settings
import BenchJob.Config.Source
import BenchJob.Envelope
import BenchJob.Report

/-!
# Carrying out commands

A command is carried out on a machine: it leaves a log and comes to an answer, which is printed
behind whatever the app has printed. Whether the answer could be printed changes neither the answer
nor what was done.

Running a job needs a local build from the start, so that a job whose build is unknown asks nobody
for anything. A plan needs one only to show the path of the app, and names the app by itself without
one.

## Main definitions

- `settingsOf`: the settings of a command line on a machine.
- `runJob`, `planJob`: the two things done with them.
- `Command.perform`: the answer to a command, and its log.
- `execute`: the whole execution, as seen from outside.
-/

namespace BenchJob

open Text (Bytes)

/-- The settings of a command line: its config file, or the default one, below its flags. -/
def settingsOf (w : World) (o : StepOptions) : Act Log Settings := do
  let file ← Config.loadOrDefault w (o.configFile.map Text.decodeLossy)
  (file.merge o.flags).resolve w.home

/-- The machine as the host of a job: the checkout knows the commit, the build has the app. -/
def Settings.host (s : Settings) (w : World) (build : LocalBuild) : Host Log where
  commitTimestamp := Commit.timestamp w s.repoDir
  launch := build.launch w
  announce := w.tell

def runJob (w : World) (o : StepOptions) : Act Log RunReport := do
  let settings ← settingsOf w o
  let build ← settings.localBuild
  let (invocation, outcome) ← settings.job.run (settings.host w build)
  let command := Shell.render (build.pathOf invocation.app) invocation.args
  return ⟨⟨settings.job.builder, command, invocation⟩, outcome⟩

/-- The program that a plan shows: the app in its build, or by itself if there is no build. -/
def Settings.shownProgram (s : Settings) (app : String) : String :=
  match s.localBuild with
  | .ok build => build.pathOf app
  | .error _ => app

def planJob (w : World) (o : StepOptions) : Act Log PlanReport := do
  let settings ← settingsOf w o
  let invocation ← settings.job.invocation (Commit.timestamp w settings.repoDir)
  let command := Shell.render (settings.shownProgram invocation.app) invocation.args
  return ⟨settings.job.builder, command, invocation⟩

def Command.data (w : World) : Command → Act Log (Json × Int)
  | .run o => do
    let report ← runJob w o
    return (report.toJson, report.outcome.jobCode)
  | .plan o => do
    let report ← planJob w o
    return (report.toJson, 0)
  | .overrides builder => return ((OverridesReport.ofBuilder builder).toJson, 0)

def Command.perform (w : World) (c : Command) : StateM Log Answer := do
  w.tell .working
  let result ← (c.data w).run
  return .ofResult result

/-- An execution as seen from outside: the answer, whether it was printed, what arrived on standard
output, and the log. -/
structure Execution where
  answer : Answer
  printed : Except Failure Unit
  stdout : Bytes
  log : Log

def Execution.processCode (e : Execution) : UInt8 := BenchJob.processCode e.answer.exitCode

def execute (w : World) (sink : Sink) (c : Command) : Execution :=
  let (answer, log) := (c.perform w).run .empty
  { answer := answer
    printed := sink.print
    stdout := sink.arrives (log.stdout ++ Text.encode (Envelope.text answer.result))
    log := log }

end BenchJob
