/-!
# UTF-8

Bytes are read by a machine that knows, between two bytes, how many continuation bytes it is owed
and in which range the next one has to lie. The range of the second byte rules out overlong forms,
surrogates and code points that are too large, so that every complete sequence is a character.

A byte that cannot continue the sequence ends it: what was read so far is one malformed piece, and
the byte itself is read afresh. Malformed pieces are therefore the longest prefixes of well-formed
sequences, and single bytes that start none.

## Main definitions

- `encode`: the bytes of a string.
- `pieces`: characters and malformed pieces of a byte sequence, in order.
- `decode?`: the string, if nothing is malformed.
- `decodeLossy`: the string with a replacement character for each malformed piece.
-/

namespace BenchJob.Text

/-- A sequence of bytes, as files and program outputs hold them. -/
abbrev Bytes := List UInt8

def encodeChars (s : List Char) : Bytes := s.flatMap String.utf8EncodeChar

def encode (s : String) : Bytes := encodeChars s.toList

def byteCount (s : List Char) : Nat := (encodeChars s).length

/-- An unfinished sequence: the continuation bytes still owed, the closed range of the next one,
and the bits read so far. -/
structure Unfinished where
  owed : Nat
  low : Nat
  high : Nat
  bits : Nat
  deriving Repr, DecidableEq

/-- What a byte amounts to where a sequence may start. -/
inductive Opening where
  /-- The byte is a whole character, or a malformed piece of its own. -/
  | whole (piece : Option Char)
  /-- The byte starts a longer sequence. -/
  | unfinished (u : Unfinished)

def opening (b : Nat) : Opening :=
  -- The ranges leave out encodings that are longer than needed, surrogates, and what lies beyond the
  -- last code point.
  if b < 0x80 then .whole (some (Char.ofNat b))
  else if b < 0xC2 then .whole none
  else if b < 0xE0 then .unfinished ⟨1, 0x80, 0xBF, b - 0xC0⟩
  else if b = 0xE0 then .unfinished ⟨2, 0xA0, 0xBF, 0⟩
  else if b = 0xED then .unfinished ⟨2, 0x80, 0x9F, 0xD⟩
  else if b < 0xF0 then .unfinished ⟨2, 0x80, 0xBF, b - 0xE0⟩
  else if b = 0xF0 then .unfinished ⟨3, 0x90, 0xBF, 0⟩
  else if b < 0xF4 then .unfinished ⟨3, 0x80, 0xBF, b - 0xF0⟩
  else if b = 0xF4 then .unfinished ⟨3, 0x80, 0x8F, 4⟩
  else .whole none

def Unfinished.accepts (u : Unfinished) (b : Nat) : Bool := u.low ≤ b && b ≤ u.high

def Unfinished.push (u : Unfinished) (b : Nat) : Nat := u.bits * 64 + (b - 0x80)

/-- The characters and the malformed pieces (`none`) of a byte sequence, from inside a sequence or
from between two. -/
def piecesFrom : Option Unfinished → Bytes → List (Option Char)
  | none, [] => []
  | some _, [] => [none]
  | none, b :: rest =>
    match opening b.toNat with
    | .whole piece => piece :: piecesFrom none rest
    | .unfinished u => piecesFrom (some u) rest
  | some u, b :: rest =>
    if u.accepts b.toNat then
      if u.owed = 1 then some (Char.ofNat (u.push b.toNat)) :: piecesFrom none rest
      else piecesFrom (some ⟨u.owed - 1, 0x80, 0xBF, u.push b.toNat⟩) rest
    else
      -- The byte that breaks a sequence off may start the next one.
      none :: match opening b.toNat with
        | .whole piece => piece :: piecesFrom none rest
        | .unfinished v => piecesFrom (some v) rest

def pieces (b : Bytes) : List (Option Char) := piecesFrom none b

def replacement : Char := '\uFFFD'

/-- The string with a replacement character for each malformed piece. -/
def decodeLossy (b : Bytes) : String :=
  String.ofList ((pieces b).map fun piece => piece.getD replacement)

def wellFormed? : List (Option Char) → Option (List Char)
  | [] => some []
  | none :: _ => none
  | some c :: rest => (wellFormed? rest).map (c :: ·)

/-- The string that the bytes encode, if they are well formed. -/
def decode? (b : Bytes) : Option String := (wellFormed? (pieces b)).map String.ofList

end BenchJob.Text
