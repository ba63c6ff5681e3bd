/-!
# Words of a shell command line

A command line is shown so that it can be pasted into a shell. A word with no character that a
shell treats specially stands for itself; any other word stands between apostrophes, where a shell
takes every character but the apostrophe literally. An apostrophe inside such a word closes the
quotes, stands behind a backslash, and opens them again.

## Main definitions

- `isSpecial`: the characters that make a word need quotes.
- `quote`: the written form of one word.
- `render`: the written form of a program and its arguments.
-/

namespace BenchJob.Shell

/-- The characters that a word may not show outside quotes. -/
def specials : List Char :=
  [' ', '\t', '\n', '\'', '"', '\\', '$', '`', '!', '*', '?', '[', ']', '(', ')', '\x7b', '\x7d',
   '<', '>', '|', '&', ';', '#', '~']

def isSpecial (c : Char) : Bool := specials.contains c

/-- The text between apostrophes, with each apostrophe of its own closed, escaped and reopened. -/
def escapeChars : List Char → List Char
  | [] => []
  | c :: rest =>
    if c = '\'' then '\'' :: '\\' :: '\'' :: '\'' :: escapeChars rest else c :: escapeChars rest

def quoteChars (word : List Char) : List Char :=
  if word.isEmpty || word.any isSpecial then '\'' :: escapeChars word ++ ['\''] else word

def escape (s : String) : String := String.ofList (escapeChars s.toList)

def quote (word : String) : String := String.ofList (quoteChars word.toList)

def quoteAll (words : List String) : String :=
  String.ofList ([' '].intercalate (words.map fun word => quoteChars word.toList))

def render (program : String) (args : List String) : String :=
  quoteAll (program :: args)

end BenchJob.Shell
