import BenchJob.Failure
import BenchJob.Json.Printer
import BenchJob.Text.Utf8
import BenchJob.World.Files

/-!
# Envelopes

Every command answers with one JSON object on standard output: with its data if it succeeded, or
with its failure. The members of the envelope have a fixed order, and those inside the data and the
details stand in the order of their keys. Standard output may refuse to take the text; that nobody
reads it any more is no failure.

## Main definitions

- `Answer`: what a command came to, and the exit code it asks for.
- `Envelope.text`: the text of an answer.
- `Sink`, `Sink.print`: where standard output goes, and what becomes of a text there.
-/

namespace BenchJob

open Text (Bytes)

/-- What a command came to: its data or its failure, and the exit code it asks for. -/
structure Answer where
  result : Except Failure Json
  exitCode : Int

namespace Answer

def ofFailure (f : Failure) : Answer := ⟨.error f, f.code.exitCode⟩

/-- The answer of a command with a payload, which may turn out to have no JSON form. -/
def ofPayload (payload : Except String Json) (exitCode : Int) : Answer :=
  match payload with
  | .ok data => ⟨.ok data, exitCode⟩
  | .error problem => ofFailure (.json problem (some "serialize response"))

def ofResult : Except Failure (Json × Int) → Answer
  | .ok (data, exitCode) => ofPayload (.ok data) exitCode
  | .error f => ofFailure f

end Answer

namespace Envelope

def hintItem (hint : String) : Json := .obj [("message", .str hint)]

def hintsMember (hints : List String) : List (String × Json) :=
  if hints.isEmpty then [] else [("hints", .arr (hints.map hintItem))]

def ofFailure (f : Failure) : Json :=
  .obj ([("code", .str f.code.text), ("message", .str f.message), ("details", f.details.sorted)] ++
    hintsMember f.hints)

def value : Except Failure Json → Json
  | .ok data => .obj [("success", .bool true), ("data", data.sorted)]
  | .error f => .obj [("success", .bool false), ("error", ofFailure f)]

/-- The text of an envelope, with the line break at its end. -/
def text (result : Except Failure Json) : String := (value result).pretty ++ "\n"

end Envelope

inductive Sink where
  /-- It takes what is written. -/
  | writable
  /-- It has no space left. -/
  | full
  /-- Nobody reads it any more. -/
  | closed
  deriving Repr, DecidableEq

namespace Sink

def arrives (s : Sink) (bytes : Bytes) : Bytes :=
  match s with
  | .writable => bytes
  | .full | .closed => []

/-- Print an answer: whether that succeeded. -/
def print (s : Sink) : Except Failure Unit :=
  match s with
  | .writable | .closed => .ok ()
  | .full => .error (.io OsError.noSpaceLeft.text (some "write stdout"))

end Sink

end BenchJob
