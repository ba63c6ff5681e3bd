import BenchJob.Shell

/-!
# How a shell reads a line

A shell reads a line character by character and cuts it into words, operators and comments. Quotes
and backslashes decide which characters of a word it takes literally, and they are not part of the
word themselves. An unquoted character may still be active: it starts an expansion, a pattern or a
grouping, so that the word is not the text that is written.

An operator of several characters is read as several operators here, and what an active character
starts is not read further: a line that has either is not a plain list of words.

## Main definitions

- `Sign`, `Word`, `Token`: what a line is cut into.
- `Mode`, `Mode.step`: what the shell remembers between two characters.
- `tokens?`: the tokens of a line, unless it ends inside quotes.
-/

namespace BenchJob.Shell

/-- A character of a word, and whether quoting makes the shell take it literally. -/
structure Sign where
  char : Char
  quoted : Bool
  deriving Repr, DecidableEq

abbrev Word := List Sign

/-- The characters that an unquoted place of a word gives a meaning. -/
def actives : List Char := ['$', '`', '*', '?', '[', ']', '\x7b', '\x7d', '~', '!']

def Sign.isActive (s : Sign) : Bool := !s.quoted && actives.contains s.char

def Word.text (word : Word) : String := String.ofList (word.map Sign.char)

def Word.ofChars (quoted : Bool) (chars : List Char) : Word := chars.map fun c => ⟨c, quoted⟩

inductive Token where
  | word (signs : Word)
  | operator (char : Char)
  | comment
  deriving Repr, DecidableEq

def separators : List Char := [' ', '\t', '\n']

def operators : List Char := ['|', '&', ';', '<', '>', '(', ')']

/-- The characters that a backslash quotes between double quotes. -/
def escapable : List Char := ['$', '`', '"', '\\']

/-- What the shell remembers between two characters. -/
inductive Mode where
  /-- Outside quotes, inside a word or between two. -/
  | plain (word : Option Word)
  /-- Behind a backslash outside quotes. -/
  | escaped (word : Option Word)
  /-- Between apostrophes. -/
  | single (word : Word)
  /-- Between double quotes. -/
  | double (word : Word)
  /-- Behind a backslash between double quotes. -/
  | doubleEscaped (word : Word)
  /-- Inside a comment. -/
  | comment
  deriving Repr, DecidableEq

def ended (word : Option Word) : List Token := (word.map Token.word).toList

def readPlain (word : Option Word) (c : Char) : List Token × Mode :=
  if separators.contains c then (ended word, .plain none)
  else if operators.contains c then (ended word ++ [.operator c], .plain none)
  else if c = '#' ∧ word = none then ([.comment], .comment)
  else if c = '\'' then ([], .single (word.getD []))
  else if c = '"' then ([], .double (word.getD []))
  else if c = '\\' then ([], .escaped word)
  else ([], .plain (some (word.getD [] ++ [⟨c, false⟩])))

def readDouble (word : Word) (c : Char) : Mode :=
  if c = '"' then .plain (some word)
  else if c = '\\' then .doubleEscaped word
  else .double (word ++ [⟨c, c ≠ '$' ∧ c ≠ '`'⟩])

/-- The tokens that a character ends or is, and what the shell remembers behind it. A backslash in
front of a line break removes both. -/
def Mode.step : Mode → Char → List Token × Mode
  | .plain word, c => readPlain word c
  | .escaped word, c =>
    if c = '\n' then ([], .plain word) else ([], .plain (some (word.getD [] ++ [⟨c, true⟩])))
  | .single word, c =>
    if c = '\'' then ([], .plain (some word)) else ([], .single (word ++ [⟨c, true⟩]))
  | .double word, c => ([], readDouble word c)
  | .doubleEscaped word, c =>
    if c = '\n' then ([], .double word)
    else if escapable.contains c then ([], .double (word ++ [⟨c, true⟩]))
    else ([], .double (word ++ [⟨'\\', true⟩, ⟨c, true⟩]))
  | .comment, c => if c = '\n' then ([], .plain none) else ([], .comment)

def Mode.finish? : Mode → Option (List Token)
  | .plain word => some (ended word)
  | .comment => some []
  | .escaped _ | .single _ | .double _ | .doubleEscaped _ => none

def tokensFrom? : Mode → List Char → Option (List Token)
  | mode, [] => mode.finish?
  | mode, c :: rest => (tokensFrom? (mode.step c).2 rest).map ((mode.step c).1 ++ ·)

/-- The tokens of a line, unless it ends inside quotes. -/
def tokens? (line : String) : Option (List Token) := tokensFrom? (.plain none) line.toList

end BenchJob.Shell
