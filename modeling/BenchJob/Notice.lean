import BenchJob.Text.Integer

/-!
# Notices

While a job runs it tells a person at a terminal what it is doing, one line at a time.

## Main definitions

- `Notice`: what can be told.
- `Notice.line`: the line that tells it.
-/

namespace BenchJob

inductive Notice where
  /-- The job has begun. -/
  | working
  /-- The settings of the default config file count. -/
  | usingConfig (path : String)
  /-- No override applies to the builder. -/
  | noOverrides (builder : String)
  /-- Overrides with these fragments apply to the builder. -/
  | applyingOverrides (builder : String) (fragments : List String)
  /-- This command line is about to be started. -/
  | starting (commandLine : String)
  /-- The app ended with an exit code that means trouble. -/
  | exited (app : String) (code : Int)
  deriving Repr, DecidableEq

/-- The line that tells a notice, without its line break. -/
def Notice.line : Notice → String
  | .working => "bench-step is working..."
  | .usingConfig path => "[config] Using " ++ path
  | .noOverrides builder => "[bench] No overrides for builder " ++ builder
  | .applyingOverrides builder fragments =>
    "[bench] Applying overrides for " ++ builder ++ ": " ++ ", ".intercalate fragments
  | .starting commandLine => "[flavor] " ++ commandLine
  | .exited app code => "[flavor] " ++ app ++ " exited with code " ++ Text.Integer.text code

end BenchJob
