import BenchJob.Proofs.Text.Blank
import BenchJob.Proofs.Text.Utf8
import BenchJob.Proofs.Trace

/-!
# What a failed program said

A program that fails has said what is on its standard error, or what is on its standard output if
there is nothing but blanks on standard error. The choice is made on what the bytes are read as, and
only the bytes of blanks are read as blanks: everything that is no UTF-8 leaves a replacement
character, which is not blank. So the first bytes of a blank without the last one are words of the
program like any other.

## Main definitions

- `Text.AreBlanks`: bytes that encode nothing but blanks.

## Main statements

- `Text.areBlanks_iff`: the bytes that are read as blanks.
- `errorText_of_text`, `errorText_of_blanks`: which stream counts.
- `errorText_kept`: what a failed program said, and where it is told.
-/

namespace BenchJob

open Text

/-! ## Blanks in bytes -/

/-- The bytes are the encodings of blanks, one behind the other. -/
def Text.AreBlanks (b : Bytes) : Prop := ∃ cs, IsBlanks cs ∧ b = encodeChars cs

theorem Text.areBlanks_encode_iff {s : String} : AreBlanks (encode s) ↔ IsBlanks s.toList := by
  constructor
  · rintro ⟨cs, blanks, same⟩
    have read : s = String.ofList cs := by
      rw [← decodeLossy_encode s, same, ← decodeLossy_encode (String.ofList cs), encode,
        String.toList_ofList]
    simpa [read] using blanks
  · intro blanks
    exact ⟨s.toList, blanks, rfl⟩

/-- Bytes that are no text are not those of blanks. -/
theorem Text.not_areBlanks_of_malformed {b : Bytes} (malformed : ∀ s, b ≠ encode s) :
    ¬ AreBlanks b := by
  rintro ⟨cs, -, rfl⟩
  exact malformed (String.ofList cs) (by simp [encode])

/-- Only the bytes of blanks are read as blanks. -/
theorem Text.areBlanks_iff {b : Bytes} : AreBlanks b ↔ IsBlanks (decodeLossy b).toList := by
  by_cases text : ∃ s, b = encode s
  · obtain ⟨s, rfl⟩ := text
    rw [areBlanks_encode_iff, decodeLossy_encode]
  · have malformed : ∀ s, b ≠ encode s := fun s same => text ⟨s, same⟩
    refine iff_of_false (not_areBlanks_of_malformed malformed) ?_
    intro blanks
    have blank : isBlank replacement = true := blanks _ (replacement_mem_decodeLossy malformed)
    exact absurd blank (by decide)

/-! ## The stream that counts -/

section

variable {stdout stderr : Bytes}

theorem errorText_of_text (text : ¬ AreBlanks stderr) :
    errorText stdout stderr = strip (decodeLossy stderr) := by
  rw [areBlanks_iff, ← isBlankText_iff] at text
  exact if_neg text

theorem errorText_of_blanks (blanks : AreBlanks stderr) :
    errorText stdout stderr = strip (decodeLossy stdout) := by
  rw [areBlanks_iff, ← isBlankText_iff] at blanks
  exact if_pos blanks

/-- A program has said nothing exactly if there are only blanks on both of its streams. -/
theorem errorText_eq_empty_iff :
    errorText stdout stderr = "" ↔ AreBlanks stdout ∧ AreBlanks stderr := by
  by_cases blanks : AreBlanks stderr
  · rw [errorText_of_blanks blanks, strip_eq_empty_iff, ← areBlanks_iff]
    simp [blanks]
  · rw [errorText_of_text blanks, strip_eq_empty_iff, ← areBlanks_iff]
    simp [blanks]

/-- Bytes that are no text are told with a replacement character. -/
theorem replacement_mem_errorText (malformed : ∀ s, stderr ≠ encode s) :
    replacement ∈ (errorText stdout stderr).toList := by
  rw [errorText_of_text (not_areBlanks_of_malformed malformed), toList_strip]
  exact mem_trim (replacement_mem_decodeLossy malformed) (by decide)

/-- Text on the stream that counts is told without the blanks around it. -/
theorem errorText_eq_iff {s text : String}
    (counts : AreBlanks stderr ∧ stdout = encode s ∨ ¬ AreBlanks stderr ∧ stderr = encode s) :
    errorText stdout stderr = text ↔ IsStripped text.toList ∧ ∃ before behind,
      s.toList = before ++ text.toList ++ behind ∧ IsBlanks before ∧ IsBlanks behind := by
  have said : errorText stdout stderr = strip s := by
    rcases counts with ⟨blanks, rfl⟩ | ⟨text, rfl⟩
    · rw [errorText_of_blanks blanks, decodeLossy_encode]
    · rw [errorText_of_text text, decodeLossy_encode]
  rw [said, ← trim_eq_iff, ← toList_strip, String.toList_inj]

theorem isStripped_errorText (stdout stderr : Bytes) :
    IsStripped (errorText stdout stderr).toList := by
  by_cases blanks : AreBlanks stderr
  · rw [errorText_of_blanks blanks, toList_strip]
    exact isStripped_trim _
  · rw [errorText_of_text blanks, toList_strip]
    exact isStripped_trim _

end

/-! ## Programs that fail -/

/-- A program that was started and failed is told with what it said. -/
theorem World.capture_failed {w : World} {r : Request} {start : Start} {p : Program}
    (started : w.files.start r = .ok (start, p)) (failed : p.ending ≠ .exited 0)
    (context : String) :
    (w.capture r context).Leaves
      (.error (.io (context ++ " failed: " ++ errorText p.stdout p.stderr) (some context)))
      (.ofAttempt r (.ok start)) := by
  have leaves := w.capture_leaves r context
  simpa only [World.captured, World.started, started, if_neg failed, Except.map] using leaves

/-- What a failed program said has no blanks at its ends. It is what is on standard error unless there
are only the bytes of blanks, and what is on standard output otherwise. Bytes that are no text count,
and leave a replacement character; only blanks on both streams say nothing, and text is kept except
for the blanks around it. A program that was started and does not end with 0 fails with what it said
behind the purpose that it was run for. -/
theorem errorText_kept :
    (∀ stdout stderr, IsStripped (errorText stdout stderr).toList) ∧
    (∀ stderr, ((∀ stdout, errorText stdout stderr = strip (decodeLossy stderr)) ↔
      ¬ AreBlanks stderr)) ∧
    (∀ stderr, ((∀ stdout, errorText stdout stderr = strip (decodeLossy stdout)) ↔
      AreBlanks stderr)) ∧
    (∀ stdout stderr, (∀ s, stderr ≠ encode s) →
      replacement ∈ (errorText stdout stderr).toList) ∧
    (∀ stdout stderr, errorText stdout stderr = "" ↔ AreBlanks stdout ∧ AreBlanks stderr) ∧
    (∀ stdout stderr s text,
      AreBlanks stderr ∧ stdout = encode s ∨ ¬ AreBlanks stderr ∧ stderr = encode s →
      (errorText stdout stderr = text ↔ IsStripped text.toList ∧ ∃ before behind,
        s.toList = before ++ text.toList ++ behind ∧ IsBlanks before ∧ IsBlanks behind)) ∧
    ∀ (w : World) (r : Request) (context : String) (start : Start) (p : Program),
      w.files.start r = .ok (start, p) → p.ending ≠ .exited 0 →
      (w.capture r context).Leaves
        (.error ⟨.ioError, "IO error", .obj [("context", .str context),
          ("error", .str (context ++ " failed: " ++ errorText p.stdout p.stderr))], []⟩)
        (.ofAttempt r (.ok start)) := by
  refine ⟨isStripped_errorText, ?_, ?_, fun _ _ => replacement_mem_errorText,
    fun _ _ => errorText_eq_empty_iff, fun _ _ _ _ => errorText_eq_iff, ?_⟩
  · intro stderr
    refine ⟨?_, fun text stdout => errorText_of_text text⟩
    intro always blanks
    -- Blanks on standard error do not keep what is on standard output from being told.
    have told := always (encode "x")
    rw [errorText_of_blanks blanks, strip_eq_empty_iff.2 (areBlanks_iff.1 blanks),
      decodeLossy_encode] at told
    exact absurd told (by decide)
  · intro stderr
    refine ⟨?_, fun blanks stdout => errorText_of_blanks blanks⟩
    intro always
    have silent : errorText [] stderr = "" := by
      rw [always]
      rfl
    exact (errorText_eq_empty_iff.1 silent).2
  · intro w r context start p started failed
    exact World.capture_failed started failed context

def Sample.failing (stderr : Bytes) : World :=
  ⟨none, ⟨[("bin/git", .program ⟨encode " no\n", stderr, .exited 1⟩)], []⟩, false⟩

/-- The first bytes of a blank are told, and all bytes of it are not. -/
theorem sample_errorText_kept :
    replacement ∈ (errorText (encode " no\n") [0xE3, 0x80]).toList ∧
    ((Sample.failing [0xE3, 0x80, 0x80]).capture ⟨"git", [], none⟩ "ask").result =
      .error (.io "ask failed: no" (some "ask")) := by
  obtain ⟨-, -, -, malformed, -, text, failed⟩ := errorText_kept
  constructor
  · apply malformed
    intro s same
    have read : decode? [0xE3, 0x80] = some s := decode?_eq_some_iff.2 same
    cases read
  · have blanks : AreBlanks [0xE3, 0x80, 0x80] := ⟨['\u3000'], by decide, rfl⟩
    have stripped : IsStripped "no".toList := by
      constructor
      · intro c first
        obtain rfl : 'n' = c := Option.some.inj first
        rfl
      · intro c last
        obtain rfl : 'o' = c := Option.some.inj last
        rfl
    have said : errorText (encode " no\n") [0xE3, 0x80, 0x80] = "no" :=
      (text _ _ " no\n" "no" (.inl ⟨blanks, rfl⟩)).2
        ⟨stripped, [' '], ['\n'], rfl, by decide, by decide⟩
    have leaves := failed (Sample.failing [0xE3, 0x80, 0x80]) ⟨"git", [], none⟩ "ask" _ _ rfl
      (by decide)
    rw [said] at leaves
    exact leaves.result_eq

end BenchJob
