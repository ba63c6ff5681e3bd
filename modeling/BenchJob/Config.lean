import BenchJob.Json.Value

/-!
# Configurations

A configuration is one layer of settings: any of its fields may be left open. Layers are merged
field by field, where the upper layer wins; only the arguments of the app are collected from both.

## Main definitions

- `Field`, `Key`: the fields that hold one text, and the keys of all fields.
- `Config`: a layer of settings.
- `Config.merge`: one layer on top of another.
- `Config.toJson`: the form in which a layer is stored.
-/

namespace BenchJob

inductive Field where
  | builder
  | revision
  | perfDataDir
  | resourceDir
  | devicePerfDir
  | outDir
  | configuration
  | repoDir
  deriving Repr, DecidableEq

def Field.name : Field → String
  | .builder => "builder_name"
  | .revision => "got_revision"
  | .perfDataDir => "perf_data_dir"
  | .resourceDir => "resource_dir"
  | .devicePerfDir => "device_perf_dir"
  | .outDir => "out_dir"
  | .configuration => "configuration"
  | .repoDir => "repo_dir"

/-- All fields that hold one text, in the order in which they are stored. -/
def Field.all : List Field :=
  [.builder, .revision, .perfDataDir, .resourceDir, .devicePerfDir, .outDir, .configuration,
   .repoDir]

/-- What a key of a stored configuration stands for: a text, or the arguments of the app. -/
inductive Key where
  | text (field : Field)
  | benchArgs
  deriving Repr, DecidableEq

def Key.name : Key → String
  | .text field => field.name
  | .benchArgs => "bench_args"

def Key.all : List Key := Field.all.map .text ++ [.benchArgs]

def Key.ofName? (name : String) : Option Key := Key.all.find? fun key => key.name = name

/-- A layer of settings. -/
structure Config where
  builder : Option String
  revision : Option String
  perfDataDir : Option String
  resourceDir : Option String
  devicePerfDir : Option String
  outDir : Option String
  configuration : Option String
  repoDir : Option String
  benchArgs : List String
  deriving Repr, DecidableEq

namespace Config

def empty : Config := ⟨none, none, none, none, none, none, none, none, []⟩

def get (c : Config) : Field → Option String
  | .builder => c.builder
  | .revision => c.revision
  | .perfDataDir => c.perfDataDir
  | .resourceDir => c.resourceDir
  | .devicePerfDir => c.devicePerfDir
  | .outDir => c.outDir
  | .configuration => c.configuration
  | .repoDir => c.repoDir

def set (c : Config) (field : Field) (value : Option String) : Config :=
  match field with
  | .builder => { c with builder := value }
  | .revision => { c with revision := value }
  | .perfDataDir => { c with perfDataDir := value }
  | .resourceDir => { c with resourceDir := value }
  | .devicePerfDir => { c with devicePerfDir := value }
  | .outDir => { c with outDir := value }
  | .configuration => { c with configuration := value }
  | .repoDir => { c with repoDir := value }

/-- The layer `c` with the layer `upper` on top: what `upper` sets counts, and its arguments follow
those of `c`. -/
def merge (c upper : Config) : Config where
  builder := upper.builder.or c.builder
  revision := upper.revision.or c.revision
  perfDataDir := upper.perfDataDir.or c.perfDataDir
  resourceDir := upper.resourceDir.or c.resourceDir
  devicePerfDir := upper.devicePerfDir.or c.devicePerfDir
  outDir := upper.outDir.or c.outDir
  configuration := upper.configuration.or c.configuration
  repoDir := upper.repoDir.or c.repoDir
  benchArgs := c.benchArgs ++ upper.benchArgs

def textMembers (c : Config) : List (String × Json) :=
  Field.all.flatMap fun field => Json.optional field.name .str (c.get field)

def argsMember (args : List String) : List (String × Json) :=
  if args.isEmpty then [] else [(Key.benchArgs.name, .strings args)]

/-- The stored form of a layer, in which open fields and an empty list of arguments are left out. -/
def toJson (c : Config) : Json := .obj (c.textMembers ++ argsMember c.benchArgs)

end Config

end BenchJob
