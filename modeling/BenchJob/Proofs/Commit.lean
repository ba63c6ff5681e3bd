import BenchJob.Proofs.Host
import BenchJob.Proofs.Text.Blank
import BenchJob.Proofs.Text.Integer
import BenchJob.Proofs.Text.Utf8

/-!
# What counts as the time of a commit

The version control program has to start in the checkout and to end with exit code 0, and what it
prints has to be one integer with nothing but blanks around it, within the bounds of 64 signed bits.
Its value is the time of the commit: nothing is rounded or wrapped. In every other case the question
fails with a code of its own. The failure hints at the checkout if the program did not answer, and it
shows the answer if that is no time.

## Main statements

- `Commit.parseTimestamp?_eq_some_iff`: the texts that are times, and their values.
- `Commit.answer_of_refused`, `Commit.answer_of_failed`, `Commit.answer_of_printed`: what the question
  comes to, by what becomes of the program.
- `Commit.timestamp_exact`: when there is a time, which one, and which failure there is otherwise.
-/

namespace BenchJob

/-! ## Texts -/

theorem Text.isBlank_of_isDigit {c : Char} (h : c.isDigit = true) : isBlank c = false := by
  have range : 48 ≤ c.toNat ∧ c.toNat ≤ 57 := by
    simpa [Char.isDigit, UInt32.le_iff_toNat_le] using h
  simp [isBlank, inRanges, blankRanges]
  omega

/-- An integer is written without blanks. -/
theorem Text.Integer.Writes.isStripped {s : List Char} {n : Int} (h : Writes s n) :
    IsStripped s := by
  have visible : ∀ c ∈ s, isBlank c = false := by
    intro c mem
    rcases h.mem_cases c mem with digit | rfl | rfl
    · exact isBlank_of_isDigit digit
    · rfl
    · rfl
  exact ⟨fun c first => visible c (List.mem_of_head? first),
    fun c last => visible c (List.mem_of_getLast? last)⟩

namespace Commit

open Text (IsBlanks)
open Text.Integer (Writes)

theorem fits_iff {n : Int} :
    fits n = true ↔ -9223372036854775808 ≤ n ∧ n ≤ 9223372036854775807 := by
  have bound : Int.pow 2 63 = 9223372036854775808 := rfl
  rw [fits, bound, Bool.and_eq_true, decide_eq_true_iff, decide_eq_true_iff]
  omega

/-- A text is a time if it writes an integer between blanks and the integer fits. -/
theorem parseTimestamp?_eq_some_iff {text : String} {n : Int} :
    parseTimestamp? text = some n ↔
      (∃ before written behind, text.toList = before ++ written ++ behind ∧
        IsBlanks before ∧ IsBlanks behind ∧ Writes written n) ∧ fits n = true := by
  rw [parseTimestamp?, Option.filter_eq_some_iff, Text.Integer.read?_eq_some_iff]
  refine and_congr_left fun _ => ?_
  constructor
  · intro writes
    obtain ⟨-, before, behind, split, blank, blank'⟩ := Text.trim_eq_iff.1 rfl
    exact ⟨before, _, behind, split, blank, blank', writes⟩
  · rintro ⟨before, written, behind, split, blank, blank', writes⟩
    rwa [Text.trim_eq_iff.2 ⟨writes.isStripped, before, behind, split, blank, blank'⟩]

/-- The blanks around an answer make no difference. -/
theorem parseTimestamp?_strip (text : String) :
    parseTimestamp? (Text.strip text) = parseTimestamp? text := by
  simp [parseTimestamp?, Text.strip]

/-- The text of an integer between blanks is a time exactly if the integer fits. -/
theorem parseTimestamp?_text {before behind : String} (blank : IsBlanks before.toList)
    (blank' : IsBlanks behind.toList) (n : Int) :
    parseTimestamp? (before ++ Text.Integer.text n ++ behind) = if fits n then some n else none := by
  have split : (before ++ Text.Integer.text n ++ behind).toList =
      before.toList ++ Text.Integer.chars n ++ behind.toList := by
    simp [Text.Integer.text]
  have writes := Text.Integer.writes_chars n
  split
  · rename_i fit
    exact parseTimestamp?_eq_some_iff.2 ⟨⟨_, _, _, split, blank, blank', writes⟩, fit⟩
  · rename_i other
    have stripped := Text.trim_eq_iff.2 ⟨writes.isStripped, _, _, split, blank, blank'⟩
    rw [parseTimestamp?, stripped, Text.Integer.read?_eq_some_iff.2 writes]
    simp [Option.filter, other]

/-! ## Answers -/

variable {w : World} {dir : String} {start : Start} {p : Program}

theorem answer_of_refused {e : OsError} (h : w.files.start (request dir) = .error e) :
    answer w dir = .error (noAnswer dir (World.startFailure "git log" e)) := by
  simp [answer, World.captured, h]

theorem answer_of_failed (h : w.files.start (request dir) = .ok (start, p))
    (failed : p.ending ≠ .exited 0) : ∃ cause, answer w dir = .error (noAnswer dir cause) := by
  simp [answer, World.captured, h, failed]

theorem answer_of_printed (h : w.files.start (request dir) = .ok (start, p))
    (succeeded : p.ending = .exited 0) :
    answer w dir = understood (Text.strip (Text.decodeLossy p.stdout)) := by
  simp [answer, World.captured, h, succeeded]

/-- The program was started and printed the time exactly if the output is the time between blanks. -/
theorem printed_iff {seconds : Int} :
    Printed w dir seconds ↔ ∃ start p before written behind,
      w.files.start (request dir) = .ok (start, p) ∧ p.ending = .exited 0 ∧
      (Text.decodeLossy p.stdout).toList = before ++ written ++ behind ∧
      IsBlanks before ∧ IsBlanks behind ∧ Writes written seconds ∧ fits seconds = true := by
  unfold Printed
  simp only [parseTimestamp?_strip, parseTimestamp?_eq_some_iff]
  constructor
  · rintro ⟨start, p, started, succeeded, ⟨before, written, behind, text, blank, blank', writes⟩, fit⟩
    exact ⟨start, p, before, written, behind, started, succeeded, text, blank, blank', writes, fit⟩
  · rintro ⟨start, p, before, written, behind, started, succeeded, text, blank, blank', writes, fit⟩
    exact ⟨start, p, started, succeeded, ⟨before, written, behind, text, blank, blank', writes⟩, fit⟩

/-- An answer that is no time fails with the answer as it was understood. -/
theorem understood_of_none {text : String} (h : ∀ seconds, understood text ≠ .ok seconds) :
    understood text = .error (unexpectedAnswer text) := by
  unfold understood at *
  cases parsed : parseTimestamp? text with
  | none => rfl
  | some seconds => simp [parsed] at h

/-- The answer is the text of an integer between blanks. -/
theorem answer_of_text {before behind : String} {n : Int}
    (h : w.files.start (request dir) = .ok (start, p)) (succeeded : p.ending = .exited 0)
    (output : p.stdout = Text.encode (before ++ Text.Integer.text n ++ behind))
    (blank : IsBlanks before.toList) (blank' : IsBlanks behind.toList) :
    answer w dir = if fits n then .ok n else .error (unexpectedAnswer (Text.Integer.text n)) := by
  have stripped : Text.strip (before ++ Text.Integer.text n ++ behind) = Text.Integer.text n := by
    rw [Text.strip, Text.Integer.text, Text.trim_eq_iff.2]
    exact ⟨(Text.Integer.writes_chars n).isStripped, _, _, by simp, blank, blank'⟩
  rw [answer_of_printed h succeeded, output, Text.decodeLossy_encode, understood,
    parseTimestamp?_strip, parseTimestamp?_text blank blank', stripped]
  cases fits n <;> rfl

/-- There is a time exactly if the version control program starts in the checkout, ends with exit code
0 and prints, between blanks, an integer within the bounds of 64 signed bits; this integer is the time.
In particular each of these integers is read back from its text, and no other one is. Otherwise the
question fails with a code of its own: with one hint, which names the checkout, if the program was not
started or failed, and with the answer and without a hint if the answer is no time. -/
theorem timestamp_exact (w : World) (dir : String) :
    let question : Request := ⟨"git", ["log", "-1", "--format=%ct"], some dir⟩
    let result := (timestamp w dir).result
    (∀ seconds, result = .ok seconds ↔ ∃ start p before written behind,
      w.files.start question = .ok (start, p) ∧ p.ending = .exited 0 ∧
      (Text.decodeLossy p.stdout).toList = before ++ written ++ behind ∧
      IsBlanks before ∧ IsBlanks behind ∧ Writes written seconds ∧
      -9223372036854775808 ≤ seconds ∧ seconds ≤ 9223372036854775807) ∧
    (∀ start p before n behind, w.files.start question = .ok (start, p) → p.ending = .exited 0 →
      p.stdout = Text.encode (before ++ Text.Integer.text n ++ behind) →
      IsBlanks before.toList → IsBlanks behind.toList →
      result = if -9223372036854775808 ≤ n ∧ n ≤ 9223372036854775807 then .ok n
        else .error (unexpectedAnswer (Text.Integer.text n))) ∧
    (∀ f, result = .error f → f.code = .gitCommandFailed) ∧
    ((∀ start p, w.files.start question = .ok (start, p) → p.ending ≠ .exited 0) →
      ∃ f, result = .error f ∧
        f.hints = ["Check that " ++ dir ++ " is a git checkout with at least one commit"]) ∧
    ∀ start p, w.files.start question = .ok (start, p) → p.ending = .exited 0 →
      (∀ seconds, result ≠ .ok seconds) →
      ∃ f, result = .error f ∧ f.hints = [] ∧
        f.message = "Unexpected commit timestamp from git: '" ++
          Text.strip (Text.decodeLossy p.stdout) ++ "'" := by
  intro question result
  have known : result = answer w dir := (timestamp_leaves w dir).result_eq
  rw [known]
  refine ⟨?_, ?_, fun f => code_of_answer, ?_, ?_⟩
  · intro seconds
    rw [answer_eq_ok_iff, printed_iff]
    simp only [fits_iff]
    exact Iff.rfl
  · intro start p before n behind started succeeded output blank blank'
    simp only [answer_of_text started succeeded output blank blank', fits_iff]
  · intro unanswered
    cases started : w.files.start question with
    | error e => exact ⟨_, answer_of_refused started, rfl⟩
    | ok found =>
      obtain ⟨start, p⟩ := found
      obtain ⟨cause, failed⟩ := answer_of_failed started (unanswered start p started)
      exact ⟨_, failed, rfl⟩
  · intro start p started succeeded noTime
    rw [answer_of_printed started succeeded] at noTime ⊢
    exact ⟨_, understood_of_none noTime, rfl, rfl⟩

end Commit

/-- A machine on which the oldest time that fits is printed between two kinds of blanks. -/
def Sample.oldest : World where
  home := none
  files := ⟨[("bin/git", .program
    ⟨Text.encode ("\u3000" ++ Text.Integer.text (-9223372036854775808) ++ "\n"), [], .exited 0⟩)], []⟩
  terminal := false

/-- The oldest time is read back, and a checkout that does not exist is named in a hint. -/
theorem Commit.sample_timestamp_exact :
    (timestamp Sample.oldest ".").result = .ok (-9223372036854775808) ∧
      ∃ f, (timestamp Sample.oldest "gone").result = .error f ∧
        f.hints = ["Check that gone is a git checkout with at least one commit"] := by
  constructor
  · obtain ⟨-, text, -⟩ := timestamp_exact Sample.oldest "."
    exact text ⟨"bin/git", "", ["log", "-1", "--format=%ct"]⟩ _ "\u3000" (-9223372036854775808) "\n"
      rfl rfl rfl (by decide) (by decide)
  · obtain ⟨-, -, -, unanswered, -⟩ := timestamp_exact Sample.oldest "gone"
    refine unanswered ?_
    intro start p started
    have refused : Sample.oldest.files.start ⟨"git", ["log", "-1", "--format=%ct"], some "gone"⟩ =
        .error .noSuchFile := rfl
    rw [refused] at started
    cases started

end BenchJob
