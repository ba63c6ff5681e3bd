import BenchJob.Json.Value

/-!
# Failures

A job that cannot be carried out answers with a failure: a code for machines, a message and details
for people, and hints on what to do next. The code alone decides the exit code, so that a script
can tell a mistake in the settings from a checkout without commits and from everything else.

## Main definitions

- `Failure.Code`, `Failure.Code.text`, `Failure.Code.exitCode`: the kinds of failure.
- `Failure`: a failure.
- `Failure.missingArguments` … `Failure.unexpected`: one function for each kind, which fixes the
  message and the shape of the details.
-/

namespace BenchJob

inductive Failure.Code where
  | configInvalidJson
  | configInvalidValue
  | missingArgument
  | gitCommandFailed
  | ioError
  | jsonError
  | unexpected
  deriving Repr, DecidableEq

def Failure.Code.text : Failure.Code → String
  | .configInvalidJson => "config.invalid_json"
  | .configInvalidValue => "config.invalid_value"
  | .missingArgument => "validation.missing_argument"
  | .gitCommandFailed => "git.command_failed"
  | .ioError => "internal.io_error"
  | .jsonError => "internal.json_error"
  | .unexpected => "internal.unexpected"

def Failure.Code.exitCode : Failure.Code → Int
  | .configInvalidJson | .configInvalidValue | .missingArgument => 2
  | .gitCommandFailed => 20
  | .ioError | .jsonError | .unexpected => 1

/-- Why a job could not be carried out. -/
structure Failure where
  code : Failure.Code
  message : String
  details : Json
  hints : List String
  deriving Repr, BEq

namespace Failure

def missingArguments (args : List String) : Failure :=
  ⟨.missingArgument, "Missing required argument", .obj [("args", .strings args)], []⟩

def gitCommandFailed (message : String) : Failure :=
  ⟨.gitCommandFailed, message, .obj [], []⟩

def configInvalidJson (path error : String) : Failure :=
  ⟨.configInvalidJson, "Invalid JSON in configuration",
    .obj [("error", .str error), ("path", .str path)], []⟩

def configInvalidValue (key : String) (value : Option String) (problem : String) : Failure :=
  ⟨.configInvalidValue, "Invalid configuration value",
    .obj (("key", .str key) :: ("problem", .str problem) :: Json.optional "value" .str value), []⟩

/-- The error and, if there is one, what was being done. -/
def errorDetails (error : String) (context : Option String) : Json :=
  .obj (Json.optional "context" .str context ++ [("error", .str error)])

def io (error : String) (context : Option String) : Failure :=
  ⟨.ioError, "IO error", errorDetails error context, []⟩

def json (error : String) (context : Option String) : Failure :=
  ⟨.jsonError, "JSON error", errorDetails error context, []⟩

def unexpected (error : String) : Failure :=
  ⟨.unexpected, "Unexpected error", errorDetails error none, []⟩

def withHint (f : Failure) (hint : String) : Failure := { f with hints := f.hints ++ [hint] }

end Failure

end BenchJob
