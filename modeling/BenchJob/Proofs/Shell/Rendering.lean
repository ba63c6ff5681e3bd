import BenchJob.Proofs.Shell.Line

/-!
# Rendered command lines read back

A shell that reads a rendered command line finds the program and its arguments in it and nothing
else: no operator, no comment, no character with a meaning of its own. A word in quotes is read with
the invariant that behind each written character the shell is between apostrophes again, also where
an apostrophe of the word made it leave them.

## Main statements

- `tokensFrom?_quoteChars`: one written word is one read word.
- `tokensFrom?_lineChars`: the tokens of several written words.
- `render_reads_back`: rendering loses nothing.
-/

namespace BenchJob.Shell

/-- A character that neither ends a token nor is one only changes what the shell remembers. -/
theorem tokensFrom?_of_step {mode next : Mode} {c : Char} (h : mode.step c = ([], next))
    (rest : List Char) : tokensFrom? mode (c :: rest) = tokensFrom? next rest := by
  rw [tokensFrom?, h]
  cases tokensFrom? next rest <;> rfl

/-! ## Words without quotes -/

/-- Whatever has a meaning outside quotes makes a word need them. -/
theorem isSpecial_of_meaning :
    ∀ c ∈ separators ++ operators ++ actives ++ ['#', '\'', '"', '\\'], isSpecial c = true :=
  List.all_eq_true.1 rfl

theorem step_plain {c : Char} (h : isSpecial c = false) (word : Option Word) :
    (Mode.plain word).step c = ([], .plain (some (word.getD [] ++ [⟨c, false⟩]))) := by
  have meaningless : c ∉ separators ++ operators ++ actives ++ ['#', '\'', '"', '\\'] := by
    intro mem
    simp [isSpecial_of_meaning c mem] at h
  simp only [List.mem_append, List.mem_cons, List.not_mem_nil, or_false, not_or] at meaningless
  simp [Mode.step, readPlain, meaningless]

/-- Characters without a meaning outside quotes continue the word that is being read. -/
theorem tokensFrom?_plain (chars rest : List Char) (h : ∀ c ∈ chars, isSpecial c = false)
    (word : Word) :
    tokensFrom? (.plain (some word)) (chars ++ rest) =
      tokensFrom? (.plain (some (word ++ Word.ofChars false chars))) rest := by
  induction chars generalizing word with
  | nil => simp [Word.ofChars]
  | cons c chars ih =>
    rw [List.cons_append, tokensFrom?_of_step (step_plain (h c (by simp)) _),
      ih (fun d hd => h d (List.mem_cons_of_mem _ hd))]
    simp [Word.ofChars]

/-! ## Words between apostrophes -/

/-- An escaped apostrophe leaves the quotes and comes back to them. -/
theorem tokensFrom?_apostrophe (word : Word) (rest : List Char) :
    tokensFrom? (.single word) ('\'' :: '\\' :: '\'' :: '\'' :: rest) =
      tokensFrom? (.single (word ++ [⟨'\'', true⟩])) rest := by
  have left : (Mode.single word).step '\'' = ([], .plain (some word)) := rfl
  have escaping : (Mode.plain (some word)).step '\\' = ([], .escaped (some word)) := rfl
  have escaped : (Mode.escaped (some word)).step '\'' =
      ([], .plain (some (word ++ [⟨'\'', true⟩]))) := rfl
  have back : (Mode.plain (some (word ++ [⟨'\'', true⟩]))).step '\'' =
      ([], .single (word ++ [⟨'\'', true⟩])) := rfl
  rw [tokensFrom?_of_step left, tokensFrom?_of_step escaping, tokensFrom?_of_step escaped,
    tokensFrom?_of_step back]

/-- The written form of characters, up to the closing apostrophe, gives these characters back. -/
theorem tokensFrom?_escapeChars (chars rest : List Char) (word : Word) :
    tokensFrom? (.single word) (escapeChars chars ++ '\'' :: rest) =
      tokensFrom? (.plain (some (word ++ Word.ofChars true chars))) rest := by
  -- On the written characters: behind each of them the shell is between apostrophes again.
  induction chars generalizing word with
  | nil =>
    have closed : (Mode.single word).step '\'' = ([], .plain (some word)) := rfl
    simpa [escapeChars, Word.ofChars] using tokensFrom?_of_step closed rest
  | cons c chars ih =>
    by_cases hc : c = '\''
    · subst hc
      simp only [escapeChars, if_pos, List.cons_append]
      rw [tokensFrom?_apostrophe, ih]
      simp [Word.ofChars]
    · have literal : (Mode.single word).step c = ([], .single (word ++ [⟨c, true⟩])) := by
        simp [Mode.step, hc]
      simp only [escapeChars, if_neg hc, List.cons_append]
      rw [tokensFrom?_of_step literal, ih]
      simp [Word.ofChars]

/-! ## Written words -/

def isQuoted (chars : List Char) : Bool := chars.isEmpty || chars.any isSpecial

/-- A written word is read as one word, quoted as a whole or not at all. -/
theorem tokensFrom?_quoteChars (chars rest : List Char) :
    tokensFrom? (.plain none) (quoteChars chars ++ rest) =
      tokensFrom? (.plain (some (Word.ofChars (isQuoted chars) chars))) rest := by
  cases h : isQuoted chars with
  | true =>
    have opened : (Mode.plain none).step '\'' = ([], .single []) := rfl
    have written : quoteChars chars = '\'' :: escapeChars chars ++ ['\''] := if_pos h
    rw [written, List.append_assoc, List.cons_append, tokensFrom?_of_step opened]
    exact tokensFrom?_escapeChars chars rest []
  | false =>
    have written : quoteChars chars = chars := if_neg (by simpa [isQuoted] using h)
    rw [written]
    cases chars with
    | nil => cases h
    | cons c chars =>
      have ordinary : ∀ d ∈ c :: chars, isSpecial d = false := by
        simpa [isQuoted] using h
      rw [List.cons_append, tokensFrom?_of_step (step_plain (ordinary c (by simp)) none),
        tokensFrom?_plain chars rest (fun d hd => ordinary d (List.mem_cons_of_mem _ hd))]
      rfl

/-- A space ends the word that is being read. -/
theorem tokensFrom?_space (word : Word) (rest : List Char) :
    tokensFrom? (.plain (some word)) (' ' :: rest) =
      (tokensFrom? (.plain none) rest).map (.word word :: ·) := rfl

/-- The word that a written word is read as. -/
def readWord (chars : List Char) : Word := Word.ofChars (isQuoted chars) chars

/-- Written words with a space between neighbours are read as these words. -/
theorem tokensFrom?_lineChars (words : List (List Char)) :
    tokensFrom? (.plain none) ([' '].intercalate (words.map quoteChars)) =
      some ((words.map readWord).map .word) := by
  induction words with
  | nil => rfl
  | cons chars others ih =>
    cases others with
    | nil =>
      calc tokensFrom? (.plain none) ([' '].intercalate ([chars].map quoteChars))
          = tokensFrom? (.plain none) (quoteChars chars ++ []) := by simp
        _ = some [.word (readWord chars)] := tokensFrom?_quoteChars chars []
    | cons next others =>
      have line : [' '].intercalate ((chars :: next :: others).map quoteChars) =
          quoteChars chars ++ ' ' :: [' '].intercalate ((next :: others).map quoteChars) := by
        simp [List.intercalate_cons_cons]
      rw [line, tokensFrom?_quoteChars, tokensFrom?_space, ih]
      rfl

/-- No character of a read word has a meaning for the shell. -/
theorem isActive_of_mem_readWord {chars : List Char} {sign : Sign} (h : sign ∈ readWord chars) :
    sign.isActive = false := by
  obtain ⟨c, mem, rfl⟩ := List.mem_map.1 h
  cases hq : isQuoted chars with
  | true => rfl
  | false =>
    have ordinary : isSpecial c = false := by
      simp only [isQuoted, Bool.or_eq_false_iff, List.any_eq_false] at hq
      simpa using hq.2 c mem
    have inactive : c ∉ actives := by
      intro active
      have special := isSpecial_of_meaning c (by simp [active])
      simp [special] at ordinary
    simpa [Sign.isActive] using inactive

@[simp] theorem text_readWord (word : String) : (readWord word.toList).text = word := by
  simp [Word.text, readWord, Word.ofChars, Function.comp_def]

theorem texts_readWord (words : List String) :
    (words.map fun word => readWord word.toList).map Word.text = words := by
  simp [Function.comp_def]

/-- The tokens of a rendered command line are its words. -/
theorem tokens?_render (program : String) (args : List String) :
    tokens? (render program args) =
      some (((program :: args).map fun word => readWord word.toList).map .word) := by
  have read := tokensFrom?_lineChars ((program :: args).map String.toList)
  simpa [tokens?, render, quoteAll, Function.comp_def] using read

/-- Rendering a command line loses nothing: a shell reads it as plain words, in which no character
is active, and these are the program and its arguments. -/
theorem render_reads_back (program : String) (args : List String) :
    (∃ words : List Word, tokens? (render program args) = some (words.map .word) ∧
      (∀ word ∈ words, ∀ sign ∈ word, sign.isActive = false) ∧
      words.map Word.text = program :: args) ∧
    ∀ program' args', render program' args' = render program args →
      program' = program ∧ args' = args := by
  refine ⟨⟨_, tokens?_render program args, ?_, ?_⟩, ?_⟩
  · intro word mem sign hsign
    obtain ⟨text, -, rfl⟩ := List.mem_map.1 mem
    exact isActive_of_mem_readWord hsign
  · exact texts_readWord (program :: args)
  · intro program' args' same
    -- The words can be read back from the line, so that one line has one reading.
    have tokens := (tokens?_render program' args').symm.trans
      ((congrArg tokens? same).trans (tokens?_render program args))
    have words := (List.map_inj_right fun _ _ => Token.word.inj).1 (Option.some.inj tokens)
    have texts := congrArg (List.map Word.text) words
    rw [texts_readWord, texts_readWord] at texts
    exact List.cons.inj texts

end BenchJob.Shell
