import BenchJob.CommandLine
import BenchJob.Execution

/-!
# The program

The machine of the program is what can be seen of the real one: the home directory, whether standard
error is a terminal, and the config file that counts. No program can be started on it, so that jobs
are planned here and run elsewhere.

## Main definitions

- `main`: the program.
-/

namespace BenchJob

def Command.configPath (home : Option String) : Command → Option String
  | .run o | .plan o =>
    match o.configFile with
    | some path => some (Path.expandHome home (Text.decodeLossy path))
    | none => home.map Config.defaultPath
  | .overrides _ => none

/-- A file of the real machine. What is there but cannot be read counts as a directory. -/
def look (path : String) : IO Files :=
  try
    let bytes ← IO.FS.readBinFile path
    return ⟨[(path, .plain bytes.toList)], []⟩
  catch
    | .noFileOrDirectory .. => return ⟨[], []⟩
    | _ => return ⟨[], [path]⟩

def lookAround (command : Command) : IO World := do
  let home ← IO.getEnv "HOME"
  let terminal ← (← IO.getStderr).isTty
  match command.configPath home with
  | some path => return ⟨home, ← look path, terminal⟩
  | none => return ⟨home, ⟨[], []⟩, terminal⟩

def carryOut (command : Command) : IO UInt8 := do
  let execution := execute (← lookAround command) .writable command
  (← IO.getStderr).write (ByteArray.mk execution.log.stderr.toArray)
  (← IO.getStdout).write (ByteArray.mk execution.stdout.toArray)
  return execution.processCode

def explain (stop : Stop) : IO UInt8 := do
  if stop.exitCode = 0 then IO.print stop.message else IO.eprintln stop.message
  return processCode stop.exitCode

end BenchJob

/-- The program: its words are the words of a command line. -/
def main (args : List String) : IO UInt32 := do
  match BenchJob.Command.ofWords (args.map BenchJob.Text.encode) with
  | .ok command => return (← BenchJob.carryOut command).toUInt32
  | .error stop => return (← BenchJob.explain stop).toUInt32
