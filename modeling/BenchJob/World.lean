import BenchJob.Act
import BenchJob.Notice
import BenchJob.Text.Blank
import BenchJob.World.Programs

/-!
# The machine of a job

A job reads files, starts programs and writes to two streams. The machine's part in this is fixed
beforehand: the same request has the same outcome however often it is made. What the job leaves
behind is kept in a log, so that a run is a function from the machine to a result and a log.

## Main definitions

- `World`, `Log`: the machine, and what a job leaves behind on it.
- `World.tell`: a notice on standard error, if that is a terminal.
- `World.readText`: the text of a file.
- `World.capture`: a program whose output the job reads.
- `World.passThrough`: a program whose output goes where the job's own goes.
-/

namespace BenchJob

open Text (Bytes)

/-- The machine a job runs on: the home directory, if one is set, the files, and whether standard
error is a terminal. The home directory is the one of the environment. Where that has none, or an
empty one, nothing else names one: the machine's user database is taken to have no entry. -/
structure World where
  home : Option String
  files : Files
  terminal : Bool
  deriving Repr

/-- What a job leaves behind: the programs it tried to start, each with the start or the reason
why there was none, and the bytes on the two streams. -/
structure Log where
  attempts : List (Request × Except OsError Start)
  stdout : Bytes
  stderr : Bytes

def Log.empty : Log := ⟨[], [], []⟩

def Log.starts (log : Log) : List Start :=
  log.attempts.filterMap fun attempt =>
    match attempt.2 with
    | .ok start => some start
    | .error _ => none

/-- What a failed program said: its standard error or, if there are only blanks on it, its standard
output, without the blanks around it. -/
def errorText (stdout stderr : Bytes) : String :=
  let said := Text.decodeLossy stderr
  if Text.isBlankText said then Text.strip (Text.decodeLossy stdout) else Text.strip said

namespace World

/-- Tell a notice on standard error, if that is a terminal. -/
def tell (w : World) (notice : Notice) : StateM Log Unit :=
  if w.terminal then
    modify fun log => { log with stderr := log.stderr ++ Text.encode (notice.line ++ "\n") }
  else pure ()

def readText (w : World) (path purpose : String) : Except Failure String :=
  match w.files.readText path with
  | .ok text => .ok text
  | .error e => .error (.io e.text (some purpose))

def attempt (w : World) (r : Request) : StateM Log (Except OsError Program) := do
  let outcome := w.files.start r
  modify fun log => { log with attempts := log.attempts ++ [(r, outcome.map (·.1))] }
  return outcome.map (·.2)

def startFailure (context : String) (e : OsError) : Failure :=
  .io ("Failed to run " ++ context ++ ": " ++ e.text) (some context)

/-- Run a program and read what it writes to standard output, without the blanks around it. The
program has to end with exit code 0. -/
def capture (w : World) (r : Request) (context : String) : Act Log String := do
  match ← w.attempt r with
  | .error e => throw (startFailure context e)
  | .ok program =>
    if program.ending = .exited 0 then
      return Text.strip (Text.decodeLossy program.stdout)
    else
      throw (.io (context ++ " failed: " ++ errorText program.stdout program.stderr) (some context))

/-- Run a program on the job's own streams and return its exit code. -/
def passThrough (w : World) (r : Request) (context : String) : Act Log Int := do
  match ← w.attempt r with
  | .error e => throw (startFailure context e)
  | .ok program =>
    modify fun log =>
      { log with stdout := log.stdout ++ program.stdout, stderr := log.stderr ++ program.stderr }
    return program.ending.exitCode

end World

end BenchJob
