import BenchJob.Config
import BenchJob.Text.Utf8

/-!
# Commands

A job is run or only planned, with the settings of a config file below those of the command line;
apart from that, the known overrides can be listed.

## Main definitions

- `StepOptions`: the settings of a command line.
- `Command`: what is asked for.
-/

namespace BenchJob

open Text (Bytes)

/-- The settings of a command line: the config file to start from, named by its bytes, and the
layer on top of it. -/
structure StepOptions where
  configFile : Option Bytes
  flags : Config
  deriving Repr, DecidableEq

def StepOptions.empty : StepOptions := ⟨none, Config.empty⟩

inductive Command where
  | run (options : StepOptions)
  | plan (options : StepOptions)
  | overrides (builder : Option String)
  deriving Repr, DecidableEq

end BenchJob
