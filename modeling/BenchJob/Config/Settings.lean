import BenchJob.Config
import BenchJob.Job
import BenchJob.LocalBuild

/-!
# Settings

A configuration is resolved before it is used: what must be there is checked, what may be missing is
filled in, and the home directory is put in for a leading `~` in the paths of the host. Paths of the
device and all other texts are taken as they are.

An app is launched from a local build, for which the output directory has to be known; everything
else can be said without one.

## Main definitions

- `Settings`: what a resolved configuration says.
- `Config.resolve`: the settings of a configuration.
- `Settings.localBuild`: the build whose apps are run.
-/

namespace BenchJob

/-- What a resolved configuration says: the job, and where its build and its checkout are. -/
structure Settings where
  job : Job
  outDir : Option String
  configuration : String
  repoDir : String
  deriving Repr, DecidableEq

def defaultConfiguration : String := "Release"

/-- The checkout, unless another one is set: the directory the job runs in. -/
def defaultRepoDir : String := "."

namespace Config

def required : List Field := [.builder, .revision, .resourceDir]

def missing (c : Config) : List Field := required.filter fun field => (c.get field).isNone

def incomplete (fields : List Field) : Failure :=
  (Failure.missingArguments (fields.map Field.name)).withHint
    "Pass the missing values as flags or set them in config.json"

def blank (field : Field) (value : String) : Failure :=
  .configInvalidValue field.name (some value) "must not be empty"

/-- A text that may not consist of blanks alone. -/
def checkText (field : Field) (value : String) : Except Failure String :=
  if Text.isBlankText value then .error (blank field value) else .ok value

/-- The directory in which results are kept on the host, if they are kept. -/
def keptIn (home : Option String) (c : Config) : Option String :=
  (c.perfDataDir.filter (!·.isEmpty)).map (Path.expandHome home)

/-- The directory for results on the device: unless it is set, the one on the host. -/
def devicePerfDirectory (home : Option String) (c : Config) : String :=
  match c.devicePerfDir with
  | some dir => dir
  | none => (c.keptIn home).getD ""

def settings (home : Option String) (c : Config) (builder revision resourceDir : String) :
    Settings where
  job := ⟨builder, revision, resourceDir, c.devicePerfDirectory home, c.keptIn home, c.benchArgs⟩
  outDir := c.outDir.map (Path.expandHome home)
  configuration := c.configuration.getD defaultConfiguration
  repoDir := Path.expandHome home (c.repoDir.getD defaultRepoDir)

def resolve (home : Option String) (c : Config) : Except Failure Settings :=
  match c.builder, c.revision, c.resourceDir with
  | some builder, some revision, some resourceDir => do
    let builder ← checkText .builder builder
    let revision ← checkText .revision revision
    return c.settings home builder revision resourceDir
  | _, _, _ => .error (incomplete c.missing)

end Config

/-- The build whose apps are run, if its output directory is known. -/
def Settings.localBuild (s : Settings) : Except Failure LocalBuild :=
  match s.outDir with
  | some dir => .ok ⟨dir, s.configuration⟩
  | none => .error (.missingArguments [Field.outDir.name])

end BenchJob
