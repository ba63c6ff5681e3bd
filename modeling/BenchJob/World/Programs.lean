import BenchJob.World.Files

/-!
# Starting programs

A program is named by a path, which has a slash in it and is followed from the directory in which
the program is to run, or by a bare name, which is looked up in the job's directory of programs and
nowhere else. The two need not agree: a bare name never means the file of that name in the job's
directory.

## Main definitions

- `Request`, `Start`: what is asked for, and what was started.
- `Files.start`: the program that a request starts.
-/

namespace BenchJob

/-- A program to be started: its name, its arguments and, if it is not the job's own, the directory
to run in. -/
structure Request where
  program : String
  args : List String
  dir : Option String
  deriving Repr, DecidableEq

/-- A program that was started: its file, the directory it ran in and its arguments. -/
structure Start where
  file : String
  dir : String
  args : List String
  deriving Repr, DecidableEq

/-- The directory in which bare names are looked up. -/
def programDirectory : String := "bin"

def Path.ofPlace : List String → String
  | [] => ""
  | first :: rest =>
    if first = Path.root then "/" ++ "/".intercalate rest else "/".intercalate (first :: rest)

def Target.path : Target → String
  | .directory place => Path.ofPlace place
  | .file name _ => name

namespace Files

def workingDirectory (t : Files) (r : Request) : Except OsError Target :=
  match r.dir with
  | none => .ok (.directory [])
  | some dir =>
    match t.walkFrom (.directory []) dir with
    | .ok (.file ..) => .error .notADirectory
    | found => found

def findProgram (t : Files) (dir : Target) (name : String) : Except OsError Target :=
  if name.toList.contains '/' then t.walkFrom dir name
  else if name.isEmpty then .error .noSuchFile
  else t.follow (.directory []) [programDirectory, name]

def start (t : Files) (r : Request) : Except OsError (Start × Program) := do
  if hasNul r.program || r.args.any hasNul || r.dir.any hasNul then
    throw .nulInRequest
  let dir ← t.workingDirectory r
  match ← t.findProgram dir r.program with
  | .file name (.program program) => return (⟨name, dir.path, r.args⟩, program)
  -- Neither a directory nor a plain file can be started.
  | _ => throw .permissionDenied

end Files

end BenchJob
