import BenchJob.Config.Document
import BenchJob.World

/-!
# Where a configuration comes from

A configuration is read from the file that is named for it. If none is named, the file in the home
directory counts, if there is one; without a home directory, or without the file, everything is left
open. A file that is there has to hold a configuration.

## Main definitions

- `Config.load`: the configuration in a file.
- `Config.loadOrDefault`: the configuration in the file that counts.
-/

namespace BenchJob.Config

def load (w : World) (path : String) : Except Failure Config :=
  match w.readText path ("read " ++ path) with
  | .error f => .error f
  | .ok text =>
    match ofText? text with
    | .ok c => .ok c
    | .error fault => .error (.configInvalidJson path (fault.message text))

def defaultPath (home : String) : String :=
  Path.join (Path.join (Path.join home ".config") "bench-step") "config.json"

/-- The configuration in the file that is named, or else in the one in the home directory. -/
def loadOrDefault (w : World) (path : Option String) : Act Log Config := do
  match path, w.home with
  | some path, home => load w (Path.expandHome home path)
  | none, none => return empty
  | none, some home =>
    if w.files.exists? (defaultPath home) then
      w.tell (.usingConfig (defaultPath home))
      load w (defaultPath home)
    else return empty

end BenchJob.Config
