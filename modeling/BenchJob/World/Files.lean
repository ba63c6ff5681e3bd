import BenchJob.Text.Utf8
import BenchJob.World.Path

/-!
# Files

What a job can see of the machine's files is named by paths, and directories exist as far as they
are named or lead to something that is. Different paths may name one place. Where the job's
directory lies is not known: above it are directories, and in them only what is named. A walk along
a path visits its components one by one, and the first that does not lead on decides the error.

## Main definitions

- `OsError`: why the operating system refuses, with the wording in `OsError.text`.
- `Program`, `Content`: what files hold.
- `Files`: the files of a machine.
- `Files.walk`: where a path leads.
- `Files.readText`, `Files.isFile`, `Files.exists?`: the questions that a job asks about a path.
-/

namespace BenchJob

open Text (Bytes)

inductive OsError where
  | noSuchFile
  | permissionDenied
  | notADirectory
  | isADirectory
  | noSpaceLeft
  | nameTooLong
  | nulInPath
  | nulInRequest
  | notText
  deriving Repr, DecidableEq

def OsError.text : OsError → String
  | .noSuchFile => "No such file or directory (os error 2)"
  | .permissionDenied => "Permission denied (os error 13)"
  | .notADirectory => "Not a directory (os error 20)"
  | .isADirectory => "Is a directory (os error 21)"
  | .noSpaceLeft => "No space left on device (os error 28)"
  | .nameTooLong => "File name too long (os error 36)"
  | .nulInPath => "file name contained an unexpected NUL byte"
  | .nulInRequest => "nul byte found in provided data"
  | .notText => "stream did not contain valid UTF-8"

/-- How a program ends: by itself with an exit code, which has eight bits, or by a signal. -/
inductive Ending where
  | exited (code : UInt8)
  | killed (signal : Int)
  deriving Repr, DecidableEq

/-- The exit code of a program, -1 for one that a signal ended. -/
def Ending.exitCode : Ending → Int
  | .exited code => code.toNat
  | .killed _ => -1

/-- A program, which does the same whatever its arguments are: it writes to standard output, then
to standard error, and ends. -/
structure Program where
  stdout : Bytes
  stderr : Bytes
  ending : Ending
  deriving Repr, DecidableEq

inductive Content where
  | plain (bytes : Bytes)
  | program (program : Program)
  deriving Repr, DecidableEq

/-- The bytes of a file. Of a program no more is known than that it is a script. -/
def Content.bytes : Content → Bytes
  | .plain bytes => bytes
  | .program _ => Text.encode "#!"

/-- The files of a machine, by their paths from the job's directory or from the root, and
directories that may hold none. -/
structure Files where
  files : List (String × Content)
  directories : List String
  deriving Repr

inductive Target where
  /-- The directory at a place. -/
  | directory (place : List String)
  /-- The file of this name. -/
  | file (name : String) (content : Content)
  deriving Repr, DecidableEq

namespace Files

def fileAt? (t : Files) (place : List String) : Option (String × Content) :=
  t.files.find? fun file => Path.place file.1 == place

/-- Is the place a directory that is named, or on the way to something? -/
def isDirectory (t : Files) (place : List String) : Bool :=
  (t.directories ++ t.files.map (·.1)).any fun name => (Path.visited name).contains place

def at? (t : Files) (place : List String) : Option Target :=
  match t.fileAt? place with
  | some (name, content) => some (.file name content)
  | none => if t.isDirectory place then some (.directory place) else none

def maxNameBytes : Nat := 255

def maxPathBytes : Nat := 4095

def step (t : Files) (here : Target) (name : String) : Except OsError Target :=
  match here with
  | .file .. => .error .notADirectory
  | .directory place =>
    if name = "." then .ok here
    else if name = ".." then .ok (.directory (Path.above place))
    else if maxNameBytes < name.utf8ByteSize then .error .nameTooLong
    else match t.at? (place ++ [name]) with
      | some target => .ok target
      | none => .error .noSuchFile

def follow (t : Files) : Target → List String → Except OsError Target
  | here, [] => .ok here
  | here, name :: rest =>
    match t.step here name with
    | .ok next => t.follow next rest
    | .error e => .error e

/-- A file is not what a path with a slash at its end means. -/
def checkSlash (path : String) (target : Target) : Except OsError Target :=
  match target with
  | .file .. => if Path.endsInSlash path then .error .notADirectory else .ok target
  | _ => .ok target

def walkFrom (t : Files) (dir : Target) (path : String) : Except OsError Target :=
  if path.isEmpty then .error .noSuchFile
  else if maxPathBytes < path.utf8ByteSize then .error .nameTooLong
  else
    let first := if Path.isAbsolute path then .directory [Path.root] else dir
    match t.follow first (Path.components path) with
    | .ok target => checkSlash path target
    | .error e => .error e

/-- Does the text hold a NUL, which no path and no argument can? -/
def hasNul (s : String) : Bool := s.toList.contains '\x00'

def walk (t : Files) (path : String) : Except OsError Target :=
  if hasNul path then .error .nulInPath else t.walkFrom (.directory []) path

def readText (t : Files) (path : String) : Except OsError String :=
  match t.walk path with
  | .error e => .error e
  | .ok (.file _ content) =>
    match Text.decode? content.bytes with
    | some text => .ok text
    | none => .error .notText
  | .ok _ => .error .isADirectory

def isFile (t : Files) (path : String) : Bool :=
  match t.walk path with
  | .ok (.file ..) => true
  | _ => false

def exists? (t : Files) (path : String) : Bool :=
  match t.walk path with
  | .ok _ => true
  | .error _ => false

end Files

end BenchJob
