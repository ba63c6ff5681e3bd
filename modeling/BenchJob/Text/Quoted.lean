import BenchJob.Text.Blank
import BenchJob.Text.Hidden

/-!
# Text in quotes

A text inside a message stands in quotes and shows everything that is in it: quotes and backslashes
stand behind a backslash, the usual controls have short names, and any other hidden character is
written as its code point.

## Main definitions

- `isHidden`: can nothing be seen of a character?
- `quoted`: a text in quotes.
-/

namespace BenchJob.Text

/-- Can nothing be seen of the character by itself? -/
def isHidden (c : Char) : Bool := inRanges hiddenRanges c.toNat

def quotedChar (c : Char) : List Char :=
  if c = '"' then ['\\', '"']
  else if c = '\\' then ['\\', '\\']
  else if c = '\t' then ['\\', 't']
  else if c = '\r' then ['\\', 'r']
  else if c = '\n' then ['\\', 'n']
  else if c = '\x00' then ['\\', '0']
  else if isHidden c then '\\' :: 'u' :: '\x7b' :: Nat.toDigits 16 c.toNat ++ ['\x7d']
  else [c]

def quoted (s : String) : String := String.ofList ('"' :: s.toList.flatMap quotedChar ++ ['"'])

end BenchJob.Text
