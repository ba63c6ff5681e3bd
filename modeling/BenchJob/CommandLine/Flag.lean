import BenchJob.Command

/-!
# Flags

Every field of a configuration that holds one text has a flag on the command line, named like its
key with dashes, and one more flag names the config file. All flags take a value, and none may be
given twice.

## Main definitions

- `Flag`, `Flag.name`: the flags.
- `Flag.usage`: a flag as messages show it.
- `StepOptions.has`: whether a flag has been given.
-/

namespace BenchJob

inductive Flag where
  | config
  | field (field : Field)
  deriving Repr, DecidableEq

namespace Flag

/-- All flags, in the order in which they are listed. -/
def all : List Flag := .config :: Field.all.map .field

def name : Flag → String
  | .config => "config"
  | .field f => f.name.map fun c => if c = '_' then '-' else c

def valueName : Flag → String
  | .config => "FILE"
  | .field .builder => "BUILDER_NAME"
  | .field .revision => "GOT_REVISION"
  | .field .configuration => "CONFIGURATION"
  | .field .perfDataDir => "DIR"
  | .field .resourceDir => "DIR"
  | .field .devicePerfDir => "DIR"
  | .field .outDir => "DIR"
  | .field .repoDir => "DIR"

/-- A flag as messages show it. -/
def usage (flag : Flag) : String := "--" ++ flag.name ++ " <" ++ flag.valueName ++ ">"

end Flag

def StepOptions.has (o : StepOptions) : Flag → Bool
  | .config => o.configFile.isSome
  | .field f => (o.flags.get f).isSome

end BenchJob
