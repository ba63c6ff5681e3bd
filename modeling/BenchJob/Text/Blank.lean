/-!
# Blank characters

`isBlank` is the Unicode property White_Space, and `strip` removes blank characters from both ends
of a text. The property has 25 characters: it contains the next-line control and the spaces of
other scripts, and it leaves out the zero-width space, the byte order mark and the information
separators.

## Main definitions

- `isBlank`: does a character have the property?
- `trim`, `strip`: a text without the blanks around it, on characters and on strings.
- `isBlankText`: is there nothing but blanks?
-/

namespace BenchJob.Text

/-- Closed ranges of the code points with the property White_Space, ascending and apart. -/
def blankRanges : List (Nat × Nat) :=
  [(0x09, 0x0D), (0x20, 0x20), (0x85, 0x85), (0xA0, 0xA0), (0x1680, 0x1680), (0x2000, 0x200A),
   (0x2028, 0x2029), (0x202F, 0x202F), (0x205F, 0x205F), (0x3000, 0x3000)]

def inRanges (ranges : List (Nat × Nat)) (n : Nat) : Bool :=
  ranges.any fun r => r.1 ≤ n && n ≤ r.2

def isBlank (c : Char) : Bool := inRanges blankRanges c.toNat

def trimStart (s : List Char) : List Char := s.dropWhile isBlank

def trimEnd (s : List Char) : List Char := (s.reverse.dropWhile isBlank).reverse

def trim (s : List Char) : List Char := trimEnd (trimStart s)

def strip (s : String) : String := String.ofList (trim s.toList)

def isBlankText (s : String) : Bool := s.toList.all isBlank

end BenchJob.Text
