import BenchJob.Text.Utf8

/-!
# Words of a command line

The words of a command line are told apart by the dashes in front of them. Two dashes alone end the
options. Two dashes and a name make an option, whose value may follow behind an equals sign. One
dash and letters make a cluster of switches. All other words, among them the empty one and a single
dash, are plain.

## Main definitions

- `Word`, `Word.ofBytes`: what a word is.
- `Word.clusterName`: what a cluster is called that starts with no known switch.
-/

namespace BenchJob

open Text (Bytes)

/-- What a word of a command line is. -/
inductive Word where
  | terminator
  | option (name : Bytes) (value : Option Bytes)
  | cluster (letters : Bytes)
  | plain
  deriving Repr, DecidableEq

namespace Word

def dash : UInt8 := 0x2D

def equalsSign : UInt8 := 0x3D

/-- The value of an option: what stands behind the first equals sign. -/
def valueOf (text : Bytes) : Option Bytes :=
  match text.dropWhile (· != equalsSign) with
  | [] => none
  | _ :: value => some value

def ofBytes : Bytes → Word
  | [] => .plain
  | first :: rest =>
    if first != dash then .plain
    else match rest with
      | [] => .plain
      | second :: name =>
        if second != dash then .cluster rest
        else if name.isEmpty then .terminator
        else .option (name.takeWhile (· != equalsSign)) (valueOf name)

def firstSwitch (letters : Bytes) : Option Char := (Text.pieces letters).head?.join

/-- What a cluster is called that starts with no known switch: its first letter, or all of it if
that is malformed. -/
def clusterName (letters : Bytes) : String :=
  match firstSwitch letters with
  | some c => String.ofList ['-', c]
  | none => "-" ++ Text.decodeLossy letters

end Word

end BenchJob
