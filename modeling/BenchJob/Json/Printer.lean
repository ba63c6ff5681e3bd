import BenchJob.Json.Value
import BenchJob.Text.Integer

/-!
# JSON text

Values are printed over several lines: an item or a member stands on a line of its own, two blanks
deeper than the bracket that holds it, and an empty array or object stays on one line. Strings show
every character as it is, except the quote, the backslash and the control characters below U+0020.
No line break is printed but the ones between lines.

## Main definitions

- `Json.stringChars`: the characters of a string, in quotes.
- `Json.chars`: the characters of a value at a given depth.
- `Json.pretty`: the text of a value.
-/

namespace BenchJob.Json

def hexDigit (n : Nat) : Char := Nat.digitChar n

def charText (c : Char) : List Char :=
  if c = '"' then ['\\', '"']
  else if c = '\\' then ['\\', '\\']
  else if c = '\x08' then ['\\', 'b']
  else if c = '\t' then ['\\', 't']
  else if c = '\n' then ['\\', 'n']
  else if c = '\x0c' then ['\\', 'f']
  else if c = '\r' then ['\\', 'r']
  else if c.toNat < 0x20 then
    ['\\', 'u', '0', '0', hexDigit (c.toNat / 16), hexDigit (c.toNat % 16)]
  else [c]

def stringChars (s : String) : List Char := '"' :: s.toList.flatMap charText ++ ['"']

def newline (depth : Nat) : List Char := '\n' :: List.replicate (2 * depth) ' '

/-- What stands between an item and the rest of the list. -/
def separator {α : Type} : List α → List Char
  | [] => []
  | _ :: _ => [',']

mutual

/-- The characters of a value whose first line stands at the given depth. -/
def chars (depth : Nat) : Json → List Char
  | .null => ['n', 'u', 'l', 'l']
  | .bool true => ['t', 'r', 'u', 'e']
  | .bool false => ['f', 'a', 'l', 's', 'e']
  | .int n => Text.Integer.chars n
  | .str s => stringChars s
  | .arr [] => ['[', ']']
  | .arr (item :: rest) => '[' :: itemChars (depth + 1) (item :: rest) ++ newline depth ++ [']']
  | .obj [] => ['\x7b', '\x7d']
  | .obj (member :: rest) =>
    '\x7b' :: memberChars (depth + 1) (member :: rest) ++ newline depth ++ ['\x7d']

def itemChars (depth : Nat) : List Json → List Char
  | [] => []
  | item :: rest => newline depth ++ chars depth item ++ separator rest ++ itemChars depth rest

def memberChars (depth : Nat) : List (String × Json) → List Char
  | [] => []
  | (key, value) :: rest =>
    newline depth ++ stringChars key ++ [':', ' '] ++ chars depth value ++ separator rest ++
      memberChars depth rest

end

def pretty (value : Json) : String := String.ofList (chars 0 value)

end BenchJob.Json
