import BenchJob.CommandLine.Stop
import BenchJob.Text.Visible

/-!
# Help pages

A help page says what a command does, how it is called, and what may be given to it. Arguments and
options are listed in two columns, the second of which starts two blanks behind the longest entry
of the first.

## Main definitions

- `Topic.page`: the help page of a topic.
- `Stop.message`: what is said when nothing is done, and `Stop.stdout` where it was asked for.
-/

namespace BenchJob

/-- The two columns of a list, one entry on a line. -/
def columns (entries : List (String × String)) : String :=
  let width := ((entries.map fun entry => entry.1.length).max?).getD 0
  String.join (entries.map fun (left, right) =>
    left ++ String.ofList (List.replicate (width - left.length) ' ') ++ "  " ++ right ++ "\n")

def headed (title : String) (entries : List (String × String)) : String :=
  title ++ ":\n" ++ columns entries

def Flag.purpose (command : Topic) : Flag → String
  | .config =>
    "Step config file (defaults to ~/.config/bench-step/config.json when present)"
  | .field .builder =>
    if command = .overrides then "Only show entries that apply to this builder"
    else "Builder name used to select per-device overrides"
  | .field .revision => "Revision being benchmarked"
  | .field .perfDataDir =>
    "Host perf data directory; when set, bench writes log and JSON results"
  | .field .resourceDir => "Resource directory on the device"
  | .field .devicePerfDir => "Perf directory on the device (defaults to --perf-data-dir)"
  | .field .outDir => "Build output directory containing <configuration>/bench"
  | .field .configuration => "Build configuration (Debug, Release, ...)"
  | .field .repoDir => "Checkout used to look up the commit timestamp"

namespace Topic

def purpose : Topic → String
  | .top => "Run the bench executable as a CI build step"
  | .run => "Assemble the bench command line and run it"
  | .plan => "Print the bench command line without running it"
  | .overrides => "List per-builder argument overrides"
  | .help => "Print this message or the help of the given subcommand(s)"

def flags : Topic → List Flag
  | .run | .plan => Flag.all
  | .overrides => [.field .builder]
  | .top | .help => []

def usage : Topic → String
  | .top => programName ++ " <COMMAND>"
  | .run => programName ++ " run [OPTIONS] [-- <BENCH_ARGS>...]"
  | .plan => programName ++ " plan [OPTIONS] [-- <BENCH_ARGS>...]"
  | .overrides => programName ++ " overrides [OPTIONS]"
  | .help => programName ++ " help [COMMAND]..."

def options (t : Topic) : List (String × String) :=
  t.flags.map (fun flag => ("      " ++ flag.usage, flag.purpose t)) ++
    [("  -h, --help", "Print help")]

def lists : Topic → List String
  | .top =>
    [headed "Commands" (commands.map fun command => ("  " ++ command.name, command.purpose)),
     headed "Options" [("  -h, --help", "Print help"), ("  -V, --version", "Print version")]]
  | .help => [headed "Arguments" [("  [COMMAND]...", "Print help for the subcommand(s)")]]
  | .run => [headed "Arguments" benchArgs, headed "Options" (options .run)]
  | .plan => [headed "Arguments" benchArgs, headed "Options" (options .plan)]
  | .overrides => [headed "Options" (options .overrides)]
where
  /-- The entry of the arguments that follow the options. -/
  benchArgs : List (String × String) :=
    [("  [BENCH_ARGS]...", "Additional arguments for bench (after --)")]

def page (t : Topic) : String :=
  "\n".intercalate ((t.purpose ++ "\n") :: ("Usage: " ++ t.usage ++ "\n") :: t.lists)

end Topic

def inApostrophes (name : String) : String := "'" ++ name ++ "'"

/-- A word of the command line between apostrophes, as far as it can be shown. -/
def quotedWord (word : String) : String := inApostrophes (Text.visible word)

/-- What is said when nothing is done: a page, the version, or in one line what is wrong. -/
def Stop.message : Stop → String
  | .help topic => topic.page
  | .version => programName ++ " " ++ programVersion ++ "\n"
  | .noCommand => Topic.top.page
  | .unexpected word =>
    Text.firstLine ("error: unexpected argument " ++ quotedWord word ++ " found")
  | .unknownCommand name =>
    Text.firstLine ("error: unrecognized subcommand " ++ quotedWord name)
  | .missingValue flag =>
    "error: a value is required for " ++ inApostrophes flag.usage ++ " but none was supplied"
  | .repeated flag =>
    "error: the argument " ++ inApostrophes flag.usage ++ " cannot be used multiple times"
  | .notText => "error: invalid UTF-8 was detected in one or more arguments"
  | .unwantedValue value switch =>
    Text.firstLine ("error: unexpected value " ++ quotedWord value ++ " for " ++
      inApostrophes switch ++ " found; no more were expected")

/-- What is printed on standard output when nothing is done: what was asked for. Mistakes are told
elsewhere. -/
def Stop.stdout (stop : Stop) : String := if stop.exitCode = 0 then stop.message else ""

end BenchJob
