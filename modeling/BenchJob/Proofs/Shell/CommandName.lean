import BenchJob.Proofs.Shell.Rendering

/-!
# What a shell runs for a line

A simple command is a list of words, but not all of them are alike. In front of the name of the
command there may be assignments, which are words with an unquoted equals sign behind the name of a
variable, and a first word may be reserved for the shell's own constructs.

An equals sign is no character that makes a word need quotes. In an argument it has no meaning, but
a program whose text starts with a variable's name and an equals sign is read as an assignment when
it is shown without quotes. The shell then runs one of the arguments, if it runs anything.

## Main definitions

- `Word.assignment?`, `Word.isReserved`: words that name no command.
- `SimpleCommand`, `command?`: what a shell runs for a line.
- `StartsAssignment`: a text that is read as an assignment without quotes.

## Main statements

- `assignment?_readWord_eq_none_iff`: which written words are read as assignments.
- `command?_render_of_named`, `command?_render_of_assigned`: what is run for a rendered line.
- `startsAssignment_append_slash`: only the first component of a path can make it an assignment.
-/

namespace BenchJob.Shell

/-! ## Simple commands -/

def isNameChar (c : Char) : Bool := c.isAlphanum || c = '_'

def isName : List Char → Bool
  | [] => false
  | c :: rest => !c.isDigit && (c :: rest).all isNameChar

def assigns : Sign := ⟨'=', false⟩

/-- The parts of a word in front of its first unquoted equals sign and behind it. -/
def Word.split? : Word → Option (Word × Word)
  | [] => none
  | sign :: rest =>
    if sign = assigns then some ([], rest)
    else (split? rest).map fun parts => (sign :: parts.1, parts.2)

/-- The variable and the value of an assignment, if the word is one: its first unquoted equals sign
stands behind an unquoted name. -/
def Word.assignment? (word : Word) : Option (String × String) :=
  match word.split? with
  | none => none
  | some (name, value) =>
    if name.all (!·.quoted) && isName (name.map Sign.char) then
      some (Word.text name, Word.text value)
    else none

/-- The words that a shell reserves for its own constructs, those of some shells at the end. -/
def reservedWords : List String :=
  ["!", "\x7b", "\x7d", "case", "do", "done", "elif", "else", "esac", "fi", "for", "if", "in", "then",
   "until", "while", "[[", "]]", "function", "namespace", "select", "time"]

/-- Is the word reserved? None of its characters may be quoted then. -/
def Word.isReserved (word : Word) : Bool :=
  word.all (!·.quoted) && reservedWords.contains word.text

/-- A command: the assignments in front of it, and its name and its arguments. -/
structure SimpleCommand where
  assignments : List (String × String)
  words : List String
  deriving Repr, DecidableEq

def ofWords : List Word → SimpleCommand
  | [] => ⟨[], []⟩
  | word :: rest =>
    match word.assignment? with
    | some assignment => ⟨assignment :: (ofWords rest).assignments, (ofWords rest).words⟩
    | none => ⟨[], (word :: rest).map Word.text⟩

def plainWords? : List Token → Option (List Word)
  | [] => some []
  | .word signs :: rest =>
    if signs.any Sign.isActive then none else (plainWords? rest).map (signs :: ·)
  | .operator _ :: _ | .comment :: _ => none

/-- The command that a shell runs for a line, if the line is a simple command of plain words. -/
def command? (line : String) : Option SimpleCommand := do
  let words ← plainWords? (← tokens? line)
  if words.head?.any Word.isReserved then none else some (ofWords words)

example : command? "A=1 B='2 3' make all" =
    some ⟨[("A", "1"), ("B", "2 3")], ["make", "all"]⟩ := by
  decide +kernel

example : command? "'A=1' make" = some ⟨[], ["A=1", "make"]⟩ := by
  decide +kernel

/-! ## Names -/

theorem isNameChar_of_mem {name : List Char} (h : isName name = true) :
    ∀ c ∈ name, isNameChar c = true := by
  cases name with
  | nil => simp
  | cons c rest =>
    simp only [isName, Bool.and_eq_true] at h
    exact List.all_eq_true.1 h.2

theorem notMem_of_isName {name : List Char} {c : Char} (h : isName name = true)
    (other : isNameChar c = false) : c ∉ name := by
  intro mem
  simp [isNameChar_of_mem h c mem] at other

def StartsAssignment (chars : List Char) : Prop :=
  ∃ name value, isName name = true ∧ chars = name ++ '=' :: value

theorem not_startsAssignment_nil : ¬ StartsAssignment [] := by
  rintro ⟨name, value, -, same⟩
  simp at same

/-! ## Written words -/

theorem Word.split?_eq_some_iff {word name value : Word} :
    word.split? = some (name, value) ↔ word = name ++ assigns :: value ∧ assigns ∉ name := by
  induction word generalizing name with
  | nil => simp [split?]
  | cons sign rest ih =>
    rw [split?]
    split
    · rename_i here
      subst here
      cases name with
      | nil => simp [eq_comm]
      | cons first name =>
        constructor
        · intro parts
          simp at parts
        · rintro ⟨same, absent⟩
          have equal : assigns = first := (List.cons.inj same).1
          simp [equal] at absent
    · rename_i other
      rw [Option.map_eq_some_iff]
      constructor
      · rintro ⟨⟨front, back⟩, parts, same⟩
        obtain ⟨rfl, rfl⟩ := Prod.mk.inj same
        obtain ⟨rfl, absent⟩ := ih.1 parts
        exact ⟨rfl, by simp [absent, Ne.symm other]⟩
      · rintro ⟨same, absent⟩
        cases name with
        | nil => exact absurd (List.cons.inj same).1 other
        | cons first name =>
          obtain ⟨rfl, rfl⟩ := List.cons.inj same
          have behind : assigns ∉ name := fun mem => absent (List.mem_cons_of_mem _ mem)
          exact ⟨(name, value), ih.2 ⟨rfl, behind⟩, rfl⟩

/-- An assignment has an unquoted name in front of an equals sign, and any value behind it. -/
theorem Word.assignment?_eq_some_iff {word : Word} {assignment : String × String} :
    word.assignment? = some assignment ↔ ∃ name value : Word, word = name ++ assigns :: value ∧
      (∀ sign ∈ name, sign.quoted = false) ∧ isName (name.map Sign.char) = true ∧
      assignment = (Word.text name, Word.text value) := by
  unfold assignment?
  constructor
  · intro h
    split at h
    · cases h
    · rename_i name value parts
      split at h
      · rename_i named
        simp only [Bool.and_eq_true, List.all_eq_true, Bool.not_eq_true'] at named
        exact ⟨name, value, (split?_eq_some_iff.1 parts).1, named.1, named.2,
          (Option.some.inj h).symm⟩
      · cases h
  · rintro ⟨name, value, same, unquoted, named, rfl⟩
    have absent : assigns ∉ name := by
      intro mem
      have char : '=' ∈ name.map Sign.char := List.mem_map.2 ⟨assigns, mem, rfl⟩
      exact notMem_of_isName named (by decide) char
    have parts : word.split? = some (name, value) := split?_eq_some_iff.2 ⟨same, absent⟩
    have plain : name.all (!·.quoted) = true := by simpa using unquoted
    simp [parts, plain, named]

/-- A quoted word has no sign that could make an assignment of it. -/
theorem assignment?_readWord_of_quoted {chars : List Char} (h : isQuoted chars = true) :
    (readWord chars).assignment? = none := by
  rw [Option.eq_none_iff_forall_ne_some]
  intro assignment found
  obtain ⟨name, value, split, -⟩ := Word.assignment?_eq_some_iff.1 found
  have mem : assigns ∈ readWord chars := by simp [split]
  obtain ⟨c, -, same⟩ := List.mem_map.1 mem
  simp [assigns, h] at same

/-- An unquoted word is an assignment exactly if it starts with a name and an equals sign. -/
theorem assignment?_readWord_of_unquoted {chars : List Char} (h : isQuoted chars = false)
    {assignment : String × String} :
    (readWord chars).assignment? = some assignment ↔ ∃ name value, isName name = true ∧
      chars = name ++ '=' :: value ∧
      assignment = (String.ofList name, String.ofList value) := by
  rw [Word.assignment?_eq_some_iff, readWord, h, Word.ofChars]
  constructor
  · rintro ⟨name, value, split, -, named, rfl⟩
    obtain ⟨front, back, rfl, rfl, rest⟩ := List.map_eq_append_iff.1 split
    obtain ⟨c, tail, rfl, equals, rfl⟩ := List.map_eq_cons_iff.1 rest
    obtain rfl : c = '=' := congrArg Sign.char equals
    refine ⟨front, tail, ?_, rfl, ?_⟩
    · simpa [Function.comp_def] using named
    · simp [Word.text, Function.comp_def]
  · rintro ⟨name, value, named, rfl, rfl⟩
    refine ⟨name.map fun c => ⟨c, false⟩, value.map fun c => ⟨c, false⟩, ?_, ?_, ?_, ?_⟩
    · simp [assigns]
    · simp
    · simpa [Function.comp_def] using named
    · simp [Word.text, Function.comp_def]

/-- Only unquoted words that start with a name and an equals sign are read as assignments. -/
theorem assignment?_readWord_eq_none_iff {chars : List Char} :
    (readWord chars).assignment? = none ↔ ¬ (isQuoted chars = false ∧ StartsAssignment chars) := by
  cases quoted : isQuoted chars with
  | true => simp [assignment?_readWord_of_quoted quoted]
  | false =>
    rw [Option.eq_none_iff_forall_ne_some]
    simp only [ne_eq, assignment?_readWord_of_unquoted quoted, true_and]
    constructor
    · rintro none ⟨name, value, named, split⟩
      exact none _ ⟨name, value, named, split, rfl⟩
    · rintro other _ ⟨name, value, named, split, -⟩
      exact other ⟨name, value, named, split⟩

/-- A word that is no reserved one is not taken for one. -/
theorem isReserved_readWord {program : String} (h : program ∉ reservedWords) :
    (readWord program.toList).isReserved = false := by
  simp [Word.isReserved, h]

/-! ## Rendered lines -/

theorem plainWords?_words {words : List Word}
    (h : ∀ word ∈ words, ∀ sign ∈ word, sign.isActive = false) :
    plainWords? (words.map .word) = some words := by
  induction words with
  | nil => rfl
  | cons word words ih =>
    have inactive : word.any Sign.isActive = false := by
      simpa using h word List.mem_cons_self
    have others := ih fun other mem => h other (List.mem_cons_of_mem _ mem)
    simp [plainWords?, inactive, others]

theorem command?_render {program : String} (unreserved : program ∉ reservedWords)
    (args : List String) :
    command? (render program args) =
      some (ofWords ((program :: args).map fun word => readWord word.toList)) := by
  have plain : plainWords? (((program :: args).map fun word => readWord word.toList).map .word) =
      some ((program :: args).map fun word => readWord word.toList) := by
    apply plainWords?_words
    intro word mem sign here
    obtain ⟨text, -, rfl⟩ := List.mem_map.1 mem
    exact isActive_of_mem_readWord here
  simp only [command?, tokens?_render, Option.bind_eq_bind, Option.bind_some, plain]
  simp [isReserved_readWord unreserved]

/-- The name of the command is the program, unless the program is read as an assignment. -/
theorem command?_render_of_named {program : String} (unreserved : program ∉ reservedWords)
    (named : ¬ (isQuoted program.toList = false ∧ StartsAssignment program.toList))
    (args : List String) : command? (render program args) = some ⟨[], program :: args⟩ := by
  rw [command?_render unreserved, List.map_cons, ofWords,
    assignment?_readWord_eq_none_iff.2 named]
  simp only [← List.map_cons (f := fun word : String => readWord word.toList), texts_readWord]

/-- Behind the assignments, the words are read as they are. -/
theorem words_ofWords_suffix (args : List String) :
    (ofWords (args.map fun word => readWord word.toList)).words <:+ args := by
  induction args with
  | nil => exact List.suffix_rfl
  | cons arg args ih =>
    rw [List.map_cons, ofWords]
    split
    · exact ih.trans (List.suffix_cons arg args)
    · simp only [← List.map_cons (f := fun word : String => readWord word.toList), texts_readWord]
      exact List.suffix_rfl

/-- A program that is read as an assignment leaves the name of the command to its arguments. -/
theorem command?_render_of_assigned {program : String} (unreserved : program ∉ reservedWords)
    (unquoted : isQuoted program.toList = false) (assigned : StartsAssignment program.toList)
    (args : List String) :
    ∃ assignment others words,
      command? (render program args) = some ⟨assignment :: others, words⟩ ∧ words <:+ args := by
  obtain ⟨name, value, named, split⟩ := assigned
  have read := (assignment?_readWord_of_unquoted unquoted).2 ⟨name, value, named, split, rfl⟩
  have line := command?_render unreserved args
  rw [List.map_cons, ofWords, read] at line
  exact ⟨_, _, _, line, words_ofWords_suffix args⟩

/-! ## Paths -/

/-- No slash stands in front of the equals sign of an assignment. -/
theorem startsAssignment_append_slash {front back : List Char} :
    StartsAssignment (front ++ '/' :: back) ↔ StartsAssignment front := by
  constructor
  · rintro ⟨name, value, named, same⟩
    have noSlash : '/' ∉ name := notMem_of_isName named (by decide)
    rcases List.append_eq_append_iff.1 same with ⟨more, rfl, rest⟩ | ⟨more, rfl, rest⟩
    · cases more with
      | nil => simp at rest
      | cons c more =>
        obtain ⟨rfl, -⟩ := List.cons.inj rest
        simp at noSlash
    · cases more with
      | nil => simp at rest
      | cons c more =>
        obtain ⟨rfl, -⟩ := List.cons.inj rest
        exact ⟨name, more, named, rfl⟩
  · rintro ⟨name, value, named, rfl⟩
    exact ⟨name, value ++ '/' :: back, named, by simp⟩

end BenchJob.Shell
