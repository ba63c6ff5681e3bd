import BenchJob.Act
import BenchJob.Notice
import BenchJob.Outcome
import BenchJob.Overrides
import BenchJob.Text.Integer
import BenchJob.World.Path

/-!
# Jobs

A job runs the app once, for one builder at one revision. Its arguments are put together from the
resource directory, the files for the results if these are to be kept, the overrides of the builder
and the arguments that the job was given, in this order.

A job knows nothing of the machine. It asks its host for the time of the commit, lets it launch the
app, and lets it announce what happens. The time of the commit is asked for only if results are
kept, and the app is launched only once all arguments are known.

## Main definitions

- `Job`: what is to be run.
- `Invocation`, `Recording`: the arguments of the app, and where its results are kept.
- `Host`: whom a job works with.
- `Job.invocation`: the arguments put together.
- `Job.run`: the app run with them.
-/

namespace BenchJob

def benchApp : String := "bench"

/-- The files in which the results of a run are kept, and the time of the commit they belong to. -/
structure Recording where
  logFile : String
  resultsFile : String
  timestamp : Int
  deriving Repr, DecidableEq

def timingFlags (logFile : String) : List String := ["--timers", "wg", "--logFile", logFile]

def Recording.flags (r : Recording) : List String :=
  timingFlags r.logFile ++ ["--outResultsFile", r.resultsFile]

/-- An app with all its arguments, the fragments of the overrides among them, and where the results
are kept, if they are. -/
structure Invocation where
  app : String
  args : List String
  overrides : List String
  recording : Option Recording
  deriving Repr, DecidableEq

/-- What is to be run: for which builder, at which revision, with which directories on the device,
and with which arguments. The results are kept if there is a directory for them on the host. -/
structure Job where
  builder : String
  revision : String
  resourceDir : String
  perfDir : String
  perfDataDir : Option String
  benchArgs : List String
  deriving Repr, DecidableEq

/-- Whom a job works with. The state is the host's own. -/
structure Host (σ : Type) where
  /-- The time of the commit. -/
  commitTimestamp : Act σ Int
  /-- Launch an app with arguments. -/
  launch : String → List String → Act σ Outcome
  /-- Announce what happens. -/
  announce : Notice → StateM σ Unit

namespace Job

/-- A job that keeps no results and has no arguments of its own. -/
def new (builder revision resourceDir perfDir : String) : Job :=
  ⟨builder, revision, resourceDir, perfDir, none, []⟩

def withPerfDataDir (j : Job) (dir : Option String) : Job := { j with perfDataDir := dir }

def addArgs (j : Job) (args : List String) : Job := { j with benchArgs := j.benchArgs ++ args }

def logFile (j : Job) : String := Path.join j.perfDir ("bench_" ++ j.revision ++ "_data")

def resultsFile (j : Job) (timestamp : Int) : String :=
  Path.join j.perfDir ("microbench_" ++ j.revision ++ "_" ++ Text.Integer.text timestamp ++ ".json")

def recordingAt (j : Job) (timestamp : Int) : Recording :=
  ⟨j.logFile, j.resultsFile timestamp, timestamp⟩

def assemble (j : Job) (recording : Option Recording) : Invocation where
  app := benchApp
  args := ["-i", j.resourceDir] ++ (recording.map Recording.flags).getD [] ++
    (Override.matching j.builder).flatMap (·.flags) ++ j.benchArgs
  overrides := (Override.matching j.builder).map (·.fragment)
  recording := recording

/-- Where the job keeps its results. The time of the commit is asked for only if it keeps any. -/
def recording {σ : Type} (j : Job) (commitTimestamp : Act σ Int) : Act σ (Option Recording) :=
  match j.perfDataDir with
  | none => return none
  | some _ => do
    let timestamp ← commitTimestamp
    return some (j.recordingAt timestamp)

def invocation {σ : Type} (j : Job) (commitTimestamp : Act σ Int) : Act σ Invocation := do
  let recording ← j.recording commitTimestamp
  return j.assemble recording

def overridesNotice (j : Job) (i : Invocation) : Notice :=
  if i.overrides.isEmpty then .noOverrides j.builder else .applyingOverrides j.builder i.overrides

def run {σ : Type} (j : Job) (host : Host σ) : Act σ (Invocation × Outcome) := do
  let invocation ← j.invocation host.commitTimestamp
  host.announce (j.overridesNotice invocation)
  let outcome ← host.launch invocation.app invocation.args
  return (invocation, outcome)

end Job

end BenchJob
