import BenchJob.Decimal.Text
import BenchJob.Text.Integer
import BenchJob.Text.Quoted
import BenchJob.Text.Utf8

/-!
# Faults in JSON text

A text that cannot be read is answered with the first problem in it and the place where it was
noticed. A reader that goes along a text knows what is left of it, so a place is kept as the number
of bytes that are left, and turned into a line and a column once the whole text is at hand. Lines
count from one; a column is the number of bytes on the line up to the place.

## Main definitions

- `Problem`, `Problem.text`: what may be wrong.
- `Fault`: a problem and its place.
- `Fault.here`, `Fault.atNext`: a problem before and behind the next byte.
- `Fault.message`: a fault in a given text.
-/

namespace BenchJob.Json

inductive Found where
  | null
  | bool (value : Bool)
  | int (value : Int)
  | float (value : Float)
  | str (value : String)
  | arr
  | obj
  deriving Repr

def Found.text : Found → String
  | .null => "null"
  | .bool true => "boolean `true`"
  | .bool false => "boolean `false`"
  | .int n => "integer `" ++ Text.Integer.text n ++ "`"
  | .float x => "floating point `" ++ Decimal.text x ++ "`"
  | .str s => "string " ++ Text.quoted s
  | .arr => "sequence"
  | .obj => "map"

inductive Problem where
  | endInValue
  | endInObject
  | endInArray
  | endInString
  | noValue
  | noKey
  | noColon
  | noCommaInObject
  | noCommaInArray
  | trailingComma
  | trailingCharacters
  | badLiteral
  | badNumber
  | hugeNumber
  | controlCharacter
  | badEscape
  | surrogateEnds
  | loneSurrogate
  /-- The key is none of the known ones. -/
  | unknownKey (key : String) (known : List String)
  /-- The key stands in the object twice. -/
  | repeatedKey (key : String)
  /-- The value is of another kind than expected. -/
  | wrongKind (found : Found) (expected : String)
  deriving Repr

def named (name : String) : String := "`" ++ name ++ "`"

def Problem.text : Problem → String
  | .endInValue => "EOF while parsing a value"
  | .endInObject => "EOF while parsing an object"
  | .endInArray => "EOF while parsing a list"
  | .endInString => "EOF while parsing a string"
  | .noValue => "expected value"
  | .noKey => "key must be a string"
  | .noColon => "expected `:`"
  | .noCommaInObject => "expected `,` or `\x7d`"
  | .noCommaInArray => "expected `,` or `]`"
  | .trailingComma => "trailing comma"
  | .trailingCharacters => "trailing characters"
  | .badLiteral => "expected ident"
  | .badNumber => "invalid number"
  | .hugeNumber => "number out of range"
  | .controlCharacter => "control character (\\u0000-\\u001F) found while parsing a string"
  | .badEscape => "invalid escape"
  | .surrogateEnds => "unexpected end of hex escape"
  | .loneSurrogate => "lone leading surrogate in hex escape"
  | .unknownKey key known =>
    "unknown field " ++ named key ++ ", expected one of " ++ ", ".intercalate (known.map named)
  | .repeatedKey key => "duplicate field " ++ named key
  | .wrongKind found expected => "invalid type: " ++ found.text ++ ", expected " ++ expected

/-- A problem, and how many bytes of the text are left behind the place where it was noticed. -/
structure Fault where
  problem : Problem
  left : Nat
  deriving Repr

namespace Fault

/-- A problem that is noticed in front of the rest of a text. -/
def here (problem : Problem) (rest : List Char) : Fault := ⟨problem, Text.byteCount rest⟩

/-- A problem that is noticed at the next byte, or at the end of a text without one. -/
def atNext (problem : Problem) (rest : List Char) : Fault := ⟨problem, Text.byteCount rest - 1⟩

def before (f : Fault) (whole : String) : Text.Bytes :=
  let bytes := Text.encode whole
  bytes.take (bytes.length - f.left)

def line (f : Fault) (whole : String) : Nat := 1 + (f.before whole).count 0x0A

/-- The number of bytes between the start of the line and the place. -/
def column (f : Fault) (whole : String) : Nat :=
  ((f.before whole).reverse.takeWhile (· != 0x0A)).length

def message (f : Fault) (whole : String) : String :=
  f.problem.text ++ " at line " ++ Text.Integer.text (f.line whole) ++
    " column " ++ Text.Integer.text (f.column whole)

end Fault

end BenchJob.Json
