import BenchJob.Outcome
import BenchJob.Shell
import BenchJob.World

/-!
# Apps of a local build

A build leaves its apps in a directory for each configuration below its output directory. An app is
run straight from there: it has to be there as a file, its command line is told, and its exit code
is handed on.

## Main definitions

- `LocalBuild`: a build's output directory and configuration.
- `LocalBuild.pathOf`: where an app lies.
- `LocalBuild.launch`: run an app.
-/

namespace BenchJob

structure LocalBuild where
  outDir : String
  configuration : String
  deriving Repr, DecidableEq

namespace LocalBuild

def pathOf (b : LocalBuild) (app : String) : String :=
  Path.join (Path.join b.outDir b.configuration) app

def missing (b : LocalBuild) (app : String) : Failure :=
  (Failure.io ("Executable not found: " ++ b.pathOf app) (some ("run " ++ app))).withHint
    ("Build the '" ++ app ++ "' target before running this step")

/-- Run an app and return its outcome, which may mean trouble without being a failure here. -/
def launch (b : LocalBuild) (w : World) (app : String) (args : List String) :
    Act Log Outcome := do
  unless w.files.isFile (b.pathOf app) do
    throw (b.missing app)
  w.tell (.starting (Shell.render (b.pathOf app) args))
  let code ← w.passThrough ⟨b.pathOf app, args, none⟩ app
  if code ≠ 0 then
    w.tell (.exited app code)
  return .ofExitCode code

end LocalBuild

end BenchJob
