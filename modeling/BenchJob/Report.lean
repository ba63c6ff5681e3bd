import BenchJob.Calendar
import BenchJob.Json.Value
import BenchJob.Job

/-!
# Reports

The data of a command's answer. A plan shows the command line and what it was made from; the report
of a run adds what the run came to; the report of overrides lists them, for one builder or all.

## Main definitions

- `PlanReport`, `RunReport`, `OverridesReport`: the reports.
- `PlanReport.toJson` and the like: their JSON forms.
-/

namespace BenchJob

/-- The members of a recording. The date is left out for a time that has none. -/
def Recording.members (r : Recording) : List (String × Json) :=
  [("data_file", .str r.logFile), ("json_data_file", .str r.resultsFile),
   ("commit_timestamp", .int r.timestamp)] ++
    Json.optional "committed_at" .str (Calendar.timestampText r.timestamp)

def Invocation.members (i : Invocation) : List (String × Json) :=
  [("app", .str i.app), ("args", .strings i.args), ("overrides", .strings i.overrides)] ++
    (i.recording.map Recording.members).getD []

/-- What would be run for a builder: the command line, and what it was made from. -/
structure PlanReport where
  builder : String
  command : String
  invocation : Invocation
  deriving Repr, DecidableEq

def PlanReport.members (r : PlanReport) : List (String × Json) :=
  [("builder_name", .str r.builder), ("command", .str r.command)] ++ r.invocation.members

def PlanReport.toJson (r : PlanReport) : Json := .obj r.members

structure RunReport where
  plan : PlanReport
  outcome : Outcome
  deriving Repr, DecidableEq

def Outcome.status (o : Outcome) : String := if o.success then "passed" else "failed"

def RunReport.toJson (r : RunReport) : Json :=
  .obj ([("status", .str r.outcome.status), ("exit_code", .int r.outcome.exitCode)] ++
    r.plan.members)

/-- Overrides: those of a builder, or all there are. -/
structure OverridesReport where
  builder : Option String
  entries : List Override
  flags : Option (List String)
  deriving Repr, DecidableEq

def OverridesReport.ofBuilder (builder : Option String) : OverridesReport where
  builder := builder
  entries := match builder with
    | some name => Override.matching name
    | none => Override.table
  flags := builder.map Override.flagsFor

def Override.toJson (o : Override) : Json :=
  .obj [("fragment", .str o.fragment), ("args", .strings o.flags)]

def OverridesReport.toJson (r : OverridesReport) : Json :=
  .obj (Json.optional "builder_name" .str r.builder ++
    [("entries", .arr (r.entries.map Override.toJson))] ++
    Json.optional "extra_args" .strings r.flags)

end BenchJob
