import BenchJob.Text.Utf8

/-!
# Visible text

A text that is quoted to the user must not drive the terminal it is shown on. It loses its control
characters, tabs and line breaks apart, and its control sequences, which start with an escape
character. A sequence without its end reaches as far as the text does.

Bytes are read by a machine that knows what was begun before them. A tab or a line break inside a
control sequence breaks the sequence off and is shown; inside a control string it is part of the
string.

## Main definitions

- `Begun`: what was begun before a byte.
- `visible`: a text without its control characters and control sequences.
- `firstLine`: a text as far as its first line break.
-/

namespace BenchJob.Text

/-- What was begun before a byte. -/
inductive Begun where
  /-- Nothing. -/
  | nothing
  /-- A run of visible text. -/
  | run
  /-- A sequence of which the escape character was read. -/
  | escape
  /-- An escape sequence that waits for its last byte. -/
  | escapeEnd
  /-- A control sequence, which a letter or a similar sign ends. -/
  | sequence
  /-- A device control string, before anything in it. -/
  | deviceStart
  /-- A device control string, among its parameters. -/
  | deviceParameters
  /-- A device control string, behind its parameters. -/
  | deviceEnd
  /-- A string that the byte 9C ends. -/
  | controlString
  /-- A command to the operating system, which the bell ends. -/
  | command
  deriving Repr, DecidableEq

def isLayout (b : UInt8) : Bool := b == 0x09 || b == 0x0A || b == 0x0C || b == 0x0D

def startsVisible (b : UInt8) : Bool :=
  isLayout b || (0x20 ≤ b && b ≤ 0x7E) || (0xC2 ≤ b && b ≤ 0xF4)

def Begun.shows : Begun → UInt8 → Bool
  | .nothing, b => startsVisible b
  | .run, b => startsVisible b || (0x80 ≤ b && b ≤ 0xBF)
  | .escape, b | .escapeEnd, b | .sequence, b => isLayout b
  | .deviceStart, _ | .deviceParameters, _ | .deviceEnd, _ | .controlString, _ | .command, _ =>
    false

def Begun.ofEscaped (b : UInt8) : Begun :=
  if 0x20 ≤ b && b ≤ 0x2F then .escapeEnd
  else if b = 0x5B then .sequence
  else if b = 0x5D then .command
  else if b = 0x50 then .deviceStart
  else if b = 0x58 ∨ b = 0x5E ∨ b = 0x5F then .controlString
  else if 0x30 ≤ b && b ≤ 0x7E then .nothing
  else .escape

/-- What has been begun after a byte that is not shown. -/
def Begun.next (begun : Begun) (b : UInt8) : Begun :=
  if b = 0x1B then .escape
  else if b = 0x18 ∨ b = 0x1A then .nothing
  else match begun with
    | .nothing | .run => .nothing
    | .escape => .ofEscaped b
    | .escapeEnd => if 0x30 ≤ b && b ≤ 0x7E then .nothing else begun
    | .sequence => if 0x40 ≤ b && b ≤ 0x7E then .nothing else begun
    | .deviceStart =>
      if 0x20 ≤ b && b ≤ 0x2F then .deviceEnd
      else if 0x30 ≤ b && b ≤ 0x3F then .deviceParameters
      else if 0x40 ≤ b && b ≤ 0x7E then .controlString
      else begun
    | .deviceParameters =>
      if 0x20 ≤ b && b ≤ 0x2F then .deviceEnd
      else if 0x3C ≤ b && b ≤ 0x7E then .controlString
      else begun
    | .deviceEnd => if 0x30 ≤ b && b ≤ 0x7E then .controlString else begun
    | .controlString => if b = 0x9C then .nothing else begun
    | .command => if b = 0x07 then .nothing else begun

def visibleFrom : Begun → Bytes → Bytes
  | _, [] => []
  | begun, b :: rest =>
    if begun.shows b then b :: visibleFrom .run rest else visibleFrom (begun.next b) rest

/-- The text without its control characters and control sequences. -/
def visible (s : String) : String := decodeLossy (visibleFrom .nothing (encode s))

def firstLineChars : List Char → List Char
  | [] => []
  | '\n' :: _ => []
  | '\r' :: '\n' :: _ => []
  | c :: rest => c :: firstLineChars rest

def firstLine (s : String) : String := String.ofList (firstLineChars s.toList)

end BenchJob.Text
