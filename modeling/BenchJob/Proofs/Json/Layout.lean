import BenchJob.Proofs.Json.Numerals
import BenchJob.Proofs.Json.Scanning

/-!
# Layouts of JSON text

Two texts of one value differ in nothing but the blanks between its tokens, as long as strings and
numbers are written the same way. A layout says which blanks these are: what starts the line of an
item at a depth, and what stands behind a colon. Printing over several lines is one layout; printing
without any blank is another.

Whatever the layout is, the text is a document of the grammar with the reading of the value. The
induction follows the value, and the text behind it is arbitrary.

## Main definitions

- `Layout`: the blanks of a layout.
- `Layout.text`: the text of a value in a layout.
- `Json.compact`: the text of a value without blanks.

## Main statements

- `value_chars`: the text of a value is that value in the grammar.
- `document_pretty`, `document_compact`: the text over several lines, and the one without blanks.
-/

namespace BenchJob.Json

open Grammar

/-! ## Numbers -/

/-- The digits of a number are digits of an integer in the grammar. -/
theorem whole_toDigits (n : Nat) (rest : List Char) :
    ∃ whole, Whole (Nat.toDigits 10 n ++ rest) whole rest ∧ ofDigits whole = n := by
  refine ⟨_, ?_, ofDigits_toDigits n⟩
  obtain ⟨c, cs, written, digit⟩ := toDigits_eq_cons n
  by_cases zero : c = '0'
  · subst zero
    obtain rfl := eq_zero_of_toDigits_eq_zero_cons written
    exact .zero rest
  · have all : ∀ d ∈ c :: cs, d.isDigit = true := by
      rw [← written]
      exact fun d mem => Nat.isDigit_of_mem_toDigits (by decide) (by decide) mem
    have nonzero := mt (eq_zero_iff_of_digit (digit_of_isDigit digit)).2 zero
    rw [written]
    exact .digits nonzero (digits_iff.2 ⟨c, cs, rfl, all, rfl⟩)

/-- A printed integer is a number in the grammar that stands for it. -/
theorem number_integer (n : Int) (rest : List Char) :
    ∃ x : Numeral, Number (Text.Integer.chars n ++ rest) x rest ∧ x.exact = n := by
  obtain ⟨whole, digits, value⟩ := whole_toDigits n.natAbs rest
  unfold Text.Integer.chars
  split
  · refine ⟨_, .minus digits (.none rest) (.none rest), ?_⟩
    rw [Numeral.exact_integer, value, if_pos rfl]
    congr 1
    omega
  · refine ⟨_, .mk digits (.none rest) (.none rest), ?_⟩
    rw [Numeral.exact_integer, value, if_neg Bool.false_ne_true]
    congr 1
    omega

/-! ## Layouts -/

/-- The blanks of a layout: what starts the line of an item at a depth, and what stands behind the
colon of a member. -/
structure Layout where
  line : Nat → List Char
  gap : List Char
  line_blank : ∀ depth, ∀ c ∈ line depth, IsBlank c
  gap_blank : ∀ c ∈ gap, IsBlank c

namespace Layout

/-- Each item and each member on a line of its own. -/
def lines : Layout where
  line := newline
  gap := [' ']
  line_blank depth c mem := by
    rcases List.mem_cons.1 mem with rfl | blank
    · simp [IsBlank]
    · rw [List.eq_of_mem_replicate blank]
      simp [IsBlank]
  gap_blank := by simp [IsBlank]

def compact : Layout := ⟨fun _ => [], [], by simp, by simp⟩

mutual

def chars (l : Layout) (depth : Nat) : Json → List Char
  | .null => ['n', 'u', 'l', 'l']
  | .bool true => ['t', 'r', 'u', 'e']
  | .bool false => ['f', 'a', 'l', 's', 'e']
  | .int n => Text.Integer.chars n
  | .str s => stringChars s
  | .arr [] => ['[', ']']
  | .arr (item :: rest) => '[' :: l.itemChars (depth + 1) (item :: rest) ++ l.line depth ++ [']']
  | .obj [] => ['\x7b', '\x7d']
  | .obj (member :: rest) =>
    '\x7b' :: l.memberChars (depth + 1) (member :: rest) ++ l.line depth ++ ['\x7d']

def itemChars (l : Layout) (depth : Nat) : List Json → List Char
  | [] => []
  | item :: rest => l.line depth ++ l.chars depth item ++ separator rest ++ l.itemChars depth rest

def memberChars (l : Layout) (depth : Nat) : List (String × Json) → List Char
  | [] => []
  | (key, value) :: rest =>
    l.line depth ++ stringChars key ++ [':'] ++ l.gap ++ l.chars depth value ++ separator rest ++
      l.memberChars depth rest

end

def text (l : Layout) (value : Json) : String := String.ofList (l.chars 0 value)

end Layout

def compact (value : Json) : String := Layout.compact.text value

/-! ## Values in a layout -/

theorem blanks_append {blanks : List Char} (h : ∀ c ∈ blanks, IsBlank c) (rest : List Char) :
    Blanks (blanks ++ rest) rest := by
  induction blanks with
  | nil => exact .nil rest
  | cons c blanks ih =>
    exact .cons (h c List.mem_cons_self) (ih fun d mem => h d (List.mem_cons_of_mem c mem))

theorem quoted_stringChars (s : String) (rest : List Char) :
    Quoted (stringChars s ++ rest) s rest := by
  have body := text_eq_ok_iff.1 (text_stringChars s rest)
  simpa [stringChars] using Quoted.mk body

/-- What stands in front of the line of the next item: a comma, unless it is the first one. -/
def lead {α : Type} (first : Bool) (next : List α) : List Char :=
  if first then [] else separator next

namespace Layout

open Reading (ofJson ofItems ofMembers)

/-- The start of a line parts an item from what stands before it, behind a comma or in front. -/
theorem lead_line {α : Type} (l : Layout) (depth : Nat) (first : Bool) (item : α) (more : List α)
    (rest : List Char) : Lead first (lead first (item :: more) ++ (l.line depth ++ rest)) rest := by
  have blanks := blanks_append (l.line_blank depth) rest
  cases first with
  | true => exact .first blanks
  | false => exact .later (.nil _) blanks

theorem blanks_close {α : Type} (l : Layout) (depth : Nat) (first : Bool) (rest : List Char) :
    Blanks (lead first ([] : List α) ++ (l.line depth ++ rest)) rest := by
  cases first <;> exact blanks_append (l.line_blank depth) rest

mutual

/-- The text of a value is that value in the grammar, whatever stands behind it. -/
theorem value_chars (l : Layout) (depth : Nat) (rest : List Char) :
    ∀ v : Json, Value (l.chars depth v ++ rest) (ofJson v) rest
  | .null => .null rest
  | .bool true => .boolTrue rest
  | .bool false => .boolFalse rest
  | .int n => by
    obtain ⟨x, written, exact⟩ := number_integer n rest
    rw [chars, ofJson, ← exact]
    exact .number written
  | .str s => .str (quoted_stringChars s rest)
  | .arr [] => .arr (.close (.nil _))
  | .arr (item :: more) => by
    have items := l.items_itemChars (depth + 1) depth rest (item :: more) true
    rw [chars, ofJson]
    exact .arr (by simpa [lead] using items)
  | .obj [] => .obj (.close (.nil _))
  | .obj (member :: more) => by
    have members := l.members_memberChars (depth + 1) depth rest (member :: more) true
    rw [chars, ofJson]
    exact .obj (by simpa [lead] using members)

/-- The text of items is those items in the grammar, up to the bracket at another depth. -/
theorem items_itemChars (l : Layout) (depth around : Nat) (rest : List Char) :
    ∀ (list : List Json) (first : Bool),
      Items first (lead first list ++ (l.itemChars depth list ++ (l.line around ++ ']' :: rest)))
        (ofItems list) rest
  | [], first => by
    rw [itemChars, ofItems, List.nil_append]
    exact .close (l.blanks_close around first _)
  | item :: more, first => by
    let behind := lead false more ++ (l.itemChars depth more ++ (l.line around ++ ']' :: rest))
    have items := l.items_itemChars depth around rest more false
    have value := l.value_chars depth behind item
    have parted := l.lead_line depth first item more (l.chars depth item ++ behind)
    rw [ofItems]
    refine .item ?_ value items
    simpa [itemChars, behind, lead] using parted

/-- The text of members is those members in the grammar, up to the bracket at another depth. -/
theorem members_memberChars (l : Layout) (depth around : Nat) (rest : List Char) :
    ∀ (list : List (String × Json)) (first : Bool),
      Members first
        (lead first list ++ (l.memberChars depth list ++ (l.line around ++ '\x7d' :: rest)))
        (ofMembers list) rest
  | [], first => by
    rw [memberChars, ofMembers, List.nil_append]
    exact .close (l.blanks_close around first _)
  | (key, held) :: more, first => by
    let behind := lead false more ++ (l.memberChars depth more ++ (l.line around ++ '\x7d' :: rest))
    have members := l.members_memberChars depth around rest more false
    have value := l.value_chars depth behind held
    have gap := blanks_append l.gap_blank (l.chars depth held ++ behind)
    have name := quoted_stringChars key (':' :: (l.gap ++ (l.chars depth held ++ behind)))
    have parted := l.lead_line depth first (key, held) more
      (stringChars key ++ ':' :: (l.gap ++ (l.chars depth held ++ behind)))
    rw [ofMembers]
    refine .member ?_ name (.nil _) gap value members
    simpa [memberChars, behind, lead] using parted

end

theorem document_text (l : Layout) (v : Json) : Document (l.text v).toList (ofJson v) := by
  have value := l.value_chars 0 [] v
  rw [List.append_nil] at value
  exact ⟨_, [], .nil _, by rwa [text, String.toList_ofList], .nil []⟩

mutual

/-- Printing over several lines is printing in the layout of lines. -/
theorem lines_chars (depth : Nat) : ∀ v : Json, lines.chars depth v = Json.chars depth v
  | .null | .bool true | .bool false | .int _ | .str _ | .arr [] | .obj [] => by
    simp [chars, Json.chars]
  | .arr (item :: more) => by
    rw [chars, Json.chars, lines_itemChars (depth + 1) (item :: more)]
    rfl
  | .obj (member :: more) => by
    rw [chars, Json.chars, lines_memberChars (depth + 1) (member :: more)]
    rfl

theorem lines_itemChars (depth : Nat) :
    ∀ list : List Json, lines.itemChars depth list = Json.itemChars depth list
  | [] => by rw [itemChars, Json.itemChars]
  | item :: more => by
    rw [itemChars, Json.itemChars, lines_chars depth item, lines_itemChars depth more]
    rfl

theorem lines_memberChars (depth : Nat) :
    ∀ list : List (String × Json), lines.memberChars depth list = Json.memberChars depth list
  | [] => by rw [memberChars, Json.memberChars]
  | (key, held) :: more => by
    rw [memberChars, Json.memberChars, lines_chars depth held, lines_memberChars depth more]
    simp [lines]

end

end Layout

theorem document_pretty (v : Json) : Document v.pretty.toList (.ofJson v) := by
  have document := Layout.lines.document_text v
  rwa [Layout.text, Layout.lines_chars] at document

theorem document_compact (v : Json) : Document v.compact.toList (.ofJson v) :=
  Layout.compact.document_text v

example : compact (.obj [("a", .arr [.int 1, .null])]) = "\x7b\"a\":[1,null]\x7d" := by
  cbv

end BenchJob.Json
