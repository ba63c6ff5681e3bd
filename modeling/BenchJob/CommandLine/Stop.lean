import BenchJob.CommandLine.Flag

/-!
# Command lines that ask for nothing to be done

A command line may ask for help or for the version, or it may be wrong. In both cases nothing is
done; what was asked for is a success, and everything else a mistake.

## Main definitions

- `Topic`: what help can be asked for.
- `Stop`: why nothing is done.
-/

namespace BenchJob

inductive Topic where
  | top
  | run
  | plan
  | overrides
  | help
  deriving Repr, DecidableEq

def programName : String := "bench-step"

def programVersion : String := "0.3.2"

def Topic.name : Topic → String
  | .top => programName
  | .run => "run"
  | .plan => "plan"
  | .overrides => "overrides"
  | .help => "help"

def Topic.commands : List Topic := [.run, .plan, .overrides, .help]

/-- Why nothing is done. -/
inductive Stop where
  /-- Help was asked for. -/
  | help (topic : Topic)
  /-- The version was asked for. -/
  | version
  /-- There is no command. -/
  | noCommand
  /-- This word may not stand here. -/
  | unexpected (word : String)
  /-- There is no command of this name. -/
  | unknownCommand (name : String)
  /-- The flag has no value. -/
  | missingValue (flag : Flag)
  /-- The flag was given before. -/
  | repeated (flag : Flag)
  /-- A word is not well-formed text. -/
  | notText
  /-- The switch was given a value. -/
  | unwantedValue (value switch : String)
  deriving Repr, DecidableEq

def Stop.exitCode : Stop → Int
  | .help _ | .version => 0
  | .noCommand | .unexpected _ | .unknownCommand _ | .missingValue _ | .repeated _ | .notText
  | .unwantedValue .. => 2

end BenchJob
