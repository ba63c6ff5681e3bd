import BenchJob.Proofs.Json.Reader

/-!
# The grammar of JSON text

Which texts are JSON is said without a reader, rule by rule after RFC 8259. A rule relates a text to
what its front means and to the text behind that front, so rules follow each other as they do in the
grammar: what one leaves is what the next one starts with.

A string is a sequence of characters, so an escape by number has to name a character, alone or as
one of two surrogates. A number means the number it writes, of whatever size; an object means its
members in the order in which they stand, and a key may stand in it several times.

## Main definitions

- `Grammar.Blanks`, `Grammar.Quoted`, `Grammar.Number`: blanks, strings and numbers.
- `Grammar.Value`, `Grammar.Items`, `Grammar.Members`: values.
- `Grammar.Document`: a text that is one value with blanks around it.

## Main statements

- `Grammar.value_str_iff` and the like: what stands where a value is of one kind.
- `Grammar.Value.head`: no value starts with a blank or a closing bracket.
-/

namespace BenchJob.Json.Grammar

/-! ## Tokens -/

def IsBlank (c : Char) : Prop := c ∈ [' ', '\t', '\n', '\r']

inductive Blanks : List Char → List Char → Prop where
  | nil (s : List Char) : Blanks s s
  | cons {c : Char} {s rest : List Char} (blank : IsBlank c)
      (more : Blanks s rest) : Blanks (c :: s) rest

def decimalDigits : List Char := ['0', '1', '2', '3', '4', '5', '6', '7', '8', '9']

def HexDigit (c : Char) (n : Nat) : Prop :=
  (decimalDigits ++ ['a', 'b', 'c', 'd', 'e', 'f'])[n]? = some c ∨
  (decimalDigits ++ ['A', 'B', 'C', 'D', 'E', 'F'])[n]? = some c

/-- Four hexadecimal digits. -/
inductive HexUnit : List Char → Nat → List Char → Prop where
  | mk {a b c d : Char} {i j k l : Nat} (first : HexDigit a i) (second : HexDigit b j)
      (third : HexDigit c k) (fourth : HexDigit d l) (rest : List Char) :
      HexUnit (a :: b :: c :: d :: rest) (16 * (16 * (16 * i + j) + k) + l) rest

/-- The letters that may stand behind a backslash, and what they mean there. -/
def escapes : List (Char × Char) :=
  [('"', '"'), ('\\', '\\'), ('/', '/'), ('b', '\x08'), ('f', '\x0c'), ('n', '\n'), ('r', '\r'),
   ('t', '\t')]

inductive Element : List Char → Char → List Char → Prop where
  | plain {c : Char} (printable : 0x20 ≤ c.toNat) (quote : c ≠ '"') (backslash : c ≠ '\\')
      (rest : List Char) : Element (c :: rest) c rest
  | short {letter c : Char} (listed : (letter, c) ∈ escapes) (rest : List Char) :
      Element ('\\' :: letter :: rest) c rest
  | unit {c : Char} {s rest : List Char} (code : HexUnit s c.toNat rest) :
      Element ('\\' :: 'u' :: s) c rest
  | pair {c : Char} {lead trail : Nat} {s s' rest : List Char}
      (first : HexUnit s lead ('\\' :: 'u' :: s')) (second : HexUnit s' trail rest)
      (high : 0xD800 ≤ lead ∧ lead ≤ 0xDBFF) (low : 0xDC00 ≤ trail ∧ trail ≤ 0xDFFF)
      (code : c.toNat = 0x10000 + (lead - 0xD800) * 0x400 + (trail - 0xDC00)) :
      Element ('\\' :: 'u' :: s) c rest

inductive Body : List Char → List Char → List Char → Prop where
  | close (rest : List Char) : Body ('"' :: rest) [] rest
  | more {c : Char} {cs s s' rest : List Char} (first : Element s c s')
      (behind : Body s' cs rest) : Body s (c :: cs) rest

inductive Quoted : List Char → String → List Char → Prop where
  | mk {s rest : List Char} {t : String} (body : Body s t.toList rest) : Quoted ('"' :: s) t rest

/-! ## Numbers -/

def Digit (c : Char) (d : Nat) : Prop := decimalDigits[d]? = some c

inductive Digits : List Char → List Nat → List Char → Prop where
  | last {c : Char} {d : Nat} (digit : Digit c d) (rest : List Char) : Digits (c :: rest) [d] rest
  | more {c : Char} {d : Nat} {ds : List Nat} {s rest : List Char} (digit : Digit c d)
      (behind : Digits s ds rest) : Digits (c :: s) (d :: ds) rest

/-- The digits of an integer, of which the first is a zero only if it is the only one. -/
inductive Whole : List Char → List Nat → List Char → Prop where
  | zero (rest : List Char) : Whole ('0' :: rest) [0] rest
  | digits {d : Nat} {ds : List Nat} {s rest : List Char} (nonzero : d ≠ 0)
      (written : Digits s (d :: ds) rest) : Whole s (d :: ds) rest

inductive Fraction : List Char → Option (List Nat) → List Char → Prop where
  | none (s : List Char) : Fraction s none s
  | some {ds : List Nat} {s rest : List Char} (written : Digits s ds rest) :
      Fraction ('.' :: s) (some ds) rest

/-- The sign of an exponent: is it a minus sign? -/
inductive Sign : List Char → Bool → List Char → Prop where
  | none (s : List Char) : Sign s false s
  | plus (s : List Char) : Sign ('+' :: s) false s
  | minus (s : List Char) : Sign ('-' :: s) true s

inductive Exponent : List Char → Option (Bool × List Nat) → List Char → Prop where
  | none (s : List Char) : Exponent s none s
  | some {letter : Char} {negative : Bool} {ds : List Nat} {s s' rest : List Char}
      (exp : letter ∈ ['e', 'E']) (sign : Sign s negative s') (written : Digits s' ds rest) :
      Exponent (letter :: s) (some (negative, ds)) rest

inductive Number : List Char → Numeral → List Char → Prop where
  | mk {s a b rest : List Char} {whole : List Nat} {fraction : Option (List Nat)}
      {exponent : Option (Bool × List Nat)} (integer : Whole s whole a)
      (places : Fraction a fraction b) (power : Exponent b exponent rest) :
      Number s ⟨false, whole, fraction, exponent⟩ rest
  | minus {s a b rest : List Char} {whole : List Nat} {fraction : Option (List Nat)}
      {exponent : Option (Bool × List Nat)} (integer : Whole s whole a)
      (places : Fraction a fraction b) (power : Exponent b exponent rest) :
      Number ('-' :: s) ⟨true, whole, fraction, exponent⟩ rest

/-! ## Values -/

/-- What parts an item or a member from what stands before it: a comma, unless it is the first
one, and blanks. -/
inductive Lead : Bool → List Char → List Char → Prop where
  | first {s rest : List Char} (blanks : Blanks s rest) : Lead true s rest
  | later {s s' rest : List Char} (before : Blanks s (',' :: s')) (behind : Blanks s' rest) :
      Lead false s rest

mutual

inductive Value : List Char → Reading → List Char → Prop where
  | null (rest : List Char) : Value ('n' :: 'u' :: 'l' :: 'l' :: rest) .null rest
  | boolTrue (rest : List Char) : Value ('t' :: 'r' :: 'u' :: 'e' :: rest) (.bool true) rest
  | boolFalse (rest : List Char) : Value ('f' :: 'a' :: 'l' :: 's' :: 'e' :: rest) (.bool false) rest
  | number {s rest : List Char} {x : Numeral} (written : Number s x rest) :
      Value s (.number x.exact) rest
  | str {s rest : List Char} {t : String} (written : Quoted s t rest) : Value s (.str t) rest
  | arr {s rest : List Char} {items : List Reading} (written : Items true s items rest) :
      Value ('[' :: s) (.arr items) rest
  | obj {s rest : List Char} {members : List (String × Reading)}
      (written : Members true s members rest) : Value ('\x7b' :: s) (.obj members) rest

inductive Items : Bool → List Char → List Reading → List Char → Prop where
  | close {first : Bool} {s rest : List Char} (bracket : Blanks s (']' :: rest)) :
      Items first s [] rest
  | item {first : Bool} {s a b rest : List Char} {v : Reading} {vs : List Reading}
      (lead : Lead first s a) (value : Value a v b) (more : Items false b vs rest) :
      Items first s (v :: vs) rest

inductive Members : Bool → List Char → List (String × Reading) → List Char → Prop where
  | close {first : Bool} {s rest : List Char} (bracket : Blanks s ('\x7d' :: rest)) :
      Members first s [] rest
  | member {first : Bool} {s a b c d e rest : List Char} {key : String} {v : Reading}
      {members : List (String × Reading)} (lead : Lead first s a) (name : Quoted a key b)
      (colon : Blanks b (':' :: c)) (blanks : Blanks c d) (value : Value d v e)
      (more : Members false e members rest) : Members first s ((key, v) :: members) rest

end

def Document (s : List Char) (v : Reading) : Prop :=
  ∃ a b, Blanks s a ∧ Value a v b ∧ Blanks b []

/-! ## Blanks in a row -/

theorem Blanks.trans {a b c : List Char} (h : Blanks a b) (h' : Blanks b c) : Blanks a c := by
  induction h with
  | nil => exact h'
  | cons blank more ih => exact .cons blank (ih h')

theorem Lead.trans {first : Bool} {a b c : List Char} (h : Lead first a b) (h' : Blanks b c) :
    Lead first a c := by
  cases h with
  | first blanks => exact .first (blanks.trans h')
  | later before behind => exact .later before (behind.trans h')

/-! ## Values of one kind -/

section

variable {s rest : List Char} {first : Bool}

theorem value_null_iff : Value s .null rest ↔ s = 'n' :: 'u' :: 'l' :: 'l' :: rest := by
  constructor
  · intro h
    cases h
    rfl
  · rintro rfl
    exact .null rest

theorem value_str_iff {t : String} : Value s (.str t) rest ↔ Quoted s t rest := by
  constructor
  · intro h
    cases h with
    | str written => exact written
  · exact .str

theorem value_arr_iff {items : List Reading} :
    Value s (.arr items) rest ↔ ∃ s', s = '[' :: s' ∧ Items true s' items rest := by
  constructor
  · intro h
    cases h with
    | arr written => exact ⟨_, rfl, written⟩
  · rintro ⟨s', rfl, written⟩
    exact .arr written

theorem value_obj_iff {members : List (String × Reading)} :
    Value s (.obj members) rest ↔ ∃ s', s = '\x7b' :: s' ∧ Members true s' members rest := by
  constructor
  · intro h
    cases h with
    | obj written => exact ⟨_, rfl, written⟩
  · rintro ⟨s', rfl, written⟩
    exact .obj written

theorem items_nil_iff : Items first s [] rest ↔ Blanks s (']' :: rest) := by
  constructor
  · intro h
    cases h with
    | close bracket => exact bracket
  · exact .close

theorem items_cons_iff {v : Reading} {vs : List Reading} :
    Items first s (v :: vs) rest ↔
      ∃ a b, Lead first s a ∧ Value a v b ∧ Items false b vs rest := by
  constructor
  · intro h
    cases h with
    | item lead value more => exact ⟨_, _, lead, value, more⟩
  · rintro ⟨a, b, lead, value, more⟩
    exact .item lead value more

theorem members_nil_iff : Members first s [] rest ↔ Blanks s ('\x7d' :: rest) := by
  constructor
  · intro h
    cases h with
    | close bracket => exact bracket
  · exact .close

theorem members_cons_iff {key : String} {v : Reading} {members : List (String × Reading)} :
    Members first s ((key, v) :: members) rest ↔
      ∃ a b c d e, Lead first s a ∧ Quoted a key b ∧ Blanks b (':' :: c) ∧ Blanks c d ∧
        Value d v e ∧ Members false e members rest := by
  constructor
  · intro h
    cases h with
    | member lead name colon blanks value more =>
      exact ⟨_, _, _, _, _, lead, name, colon, blanks, value, more⟩
  · rintro ⟨a, b, c, d, e, lead, name, colon, blanks, value, more⟩
    exact .member lead name colon blanks value more

end

/-! ## How a value starts -/

theorem Digits.head {s rest : List Char} {ds : List Nat} (h : Digits s ds rest) :
    ∃ c s' d, s = c :: s' ∧ Digit c d := by
  cases h with
  | last digit rest => exact ⟨_, _, _, rfl, digit⟩
  | more digit behind => exact ⟨_, _, _, rfl, digit⟩

theorem Digit.not_blank {c : Char} {d : Nat} (h : Digit c d) : ¬ IsBlank c ∧ c ≠ ']' := by
  have all : ∀ c ∈ decimalDigits, ¬ IsBlank c ∧ c ≠ ']' := by simp [decimalDigits, IsBlank]
  exact all c (List.mem_of_getElem? h)

theorem Number.head {s rest : List Char} {x : Numeral} (h : Number s x rest) :
    ∃ c s', s = c :: s' ∧ ¬ IsBlank c ∧ c ≠ ']' := by
  have minus : ¬ IsBlank '-' ∧ '-' ≠ ']' := by simp [IsBlank]
  have zero : ¬ IsBlank '0' ∧ '0' ≠ ']' := by simp [IsBlank]
  cases h with
  | minus => exact ⟨_, _, rfl, minus⟩
  | mk integer =>
    cases integer with
    | zero => exact ⟨_, _, rfl, zero⟩
    | digits nonzero written =>
      obtain ⟨c, s', d, rfl, digit⟩ := written.head
      exact ⟨c, s', rfl, digit.not_blank⟩

/-- A value starts with no blank and with no closing bracket. -/
theorem Value.head {s rest : List Char} {v : Reading} (h : Value s v rest) :
    ∃ c s', s = c :: s' ∧ ¬ IsBlank c ∧ c ≠ ']' := by
  cases h with
  | null | boolTrue | boolFalse | arr | obj => exact ⟨_, _, rfl, by simp [IsBlank]⟩
  | number written => exact written.head
  | str written =>
    cases written with
    | mk body => exact ⟨_, _, rfl, by simp [IsBlank]⟩

end BenchJob.Json.Grammar
