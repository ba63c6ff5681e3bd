/-!
# Paths

A path is a text whose components stand between slashes. Joining two paths looks at the texts only:
nothing is normalised, and a path that starts with a slash replaces the one before it.

## Main definitions

- `Path.join`: one path below another.
- `Path.expandHome`: the home directory in place of a leading `~`.
- `Path.components`: the components that a walk along the path visits.
- `Path.place`: the place that a path leads to if every component of it is there.
-/

namespace BenchJob.Path

def isAbsolute (path : String) : Bool := path.toList.head? == some '/'

def endsInSlash (path : String) : Bool := path.toList.getLast? == some '/'

/-- The path of `name` below `dir`: an absolute name stands alone, and a slash goes between the two
unless `dir` is empty or ends in one. -/
def join (dir name : String) : String :=
  if isAbsolute name then name
  else if dir.isEmpty || endsInSlash dir then dir ++ name
  else dir ++ "/" ++ name

def startsAtHome (path : String) : Bool :=
  match path.toList with
  | ['~'] => true
  | '~' :: '/' :: _ => true
  | _ => false

/-- The home directory for the leading `~` of a path that is `~` or something below it. With none
set, or an empty one, the user database would be asked for it; it is taken to have no entry here, so
that the path stays as it is. -/
def expandHome (home : Option String) (path : String) : String :=
  match home with
  | none => path
  | some dir =>
    if startsAtHome path && !dir.isEmpty then dir ++ String.ofList path.toList.tail else path

/-- The pieces of a text between slashes; there is one more of them than there are slashes. -/
def segments : List Char → List (List Char)
  | [] => [[]]
  | c :: rest =>
    if c = '/' then [] :: segments rest
    else match segments rest with
      | [] => [[c]]
      | segment :: others => (c :: segment) :: others

/-- The components that a walk along the path visits: its pieces between slashes, none of them
empty. -/
def components (path : String) : List String :=
  ((segments path.toList).filter (!·.isEmpty)).map String.ofList

def root : String := "/"

/-- The place above another one. The root is above itself, and the places above the job's own
directory consist of `..` alone, since the names of these directories are not known. -/
def above (place : List String) : List String :=
  match place.getLast? with
  | none => [".."]
  | some last =>
    if last = root then place
    else if last = ".." then place ++ [".."]
    else place.dropLast

def next (place : List String) (name : String) : List String :=
  if name = "." then place
  else if name = ".." then above place
  else place ++ [name]

/-- The place that a path starts at: the root or, as the empty place, the job's own directory. -/
def start (path : String) : List String := if isAbsolute path then [root] else []

def place (path : String) : List String := (components path).foldl next (start path)

/-- The places on the way along components, the first and the last of them included. -/
def trail : List String → List String → List (List String)
  | here, [] => [here]
  | here, name :: rest => here :: trail (next here name) rest

def visited (path : String) : List (List String) := trail (start path) (components path)

end BenchJob.Path
