import Mathlib.Data.List.Basic
import BenchJob.Text.Blank

/-!
# Texts without the blanks around them

A text is what is left of another one without the blanks around it if it neither starts nor ends in a
blank and the other one has nothing but blanks before and behind it. There is exactly one such text,
and a second removal of blanks takes nothing more away.

## Main definitions

- `Text.IsBlanks`: there is nothing but blanks.
- `Text.IsStripped`: there is no blank at either end.

## Main statements

- `Text.trim_eq_iff`: what is left of a text.
- `Text.trim_eq_nil_iff`, `Text.mem_trim`: nothing is left of blanks, and everything else is left.
- `Text.trim_trim`: blanks are removed once and for all.
-/

namespace BenchJob.Text

def IsBlanks (s : List Char) : Prop := ∀ c ∈ s, isBlank c = true

instance : DecidablePred IsBlanks := fun s =>
  decidable_of_iff (s.all isBlank = true) List.all_eq_true

/-- Neither the first nor the last character of the text is blank. -/
def IsStripped (s : List Char) : Prop :=
  (∀ c ∈ s.head?, isBlank c = false) ∧ ∀ c ∈ s.getLast?, isBlank c = false

theorem isBlankText_iff {s : String} : isBlankText s = true ↔ IsBlanks s.toList :=
  List.all_eq_true

theorem isBlankText_eq_false_iff {s : String} :
    isBlankText s = false ↔ ∃ c ∈ s.toList, isBlank c = false := by
  simp [isBlankText, List.all_eq_false]

variable {s t : List Char}

/-! ## One end -/

theorem head_trimStart : ∀ c ∈ (trimStart s).head?, isBlank c = false := by
  intro c first
  have other := List.head?_dropWhile_not isBlank s
  rw [trimStart, Option.mem_def] at first
  rw [first] at other
  simpa using other

theorem exists_trimStart (s : List Char) : ∃ before, IsBlanks before ∧ s = before ++ trimStart s :=
  ⟨s.takeWhile isBlank, List.all_eq_true.1 List.all_takeWhile,
    List.takeWhile_append_dropWhile.symm⟩

theorem trimStart_append {before : List Char} (h : IsBlanks before) :
    trimStart (before ++ s) = trimStart s :=
  List.dropWhile_append_of_pos h

theorem trimStart_eq_self (h : ∀ c ∈ s.head?, isBlank c = false) : trimStart s = s := by
  cases s with
  | nil => rfl
  | cons c rest => simp [trimStart, h c rfl]

theorem trimEnd_eq_reverse (s : List Char) : trimEnd s = (trimStart s.reverse).reverse := rfl

theorem last_trimEnd : ∀ c ∈ (trimEnd s).getLast?, isBlank c = false := by
  intro c last
  rw [trimEnd_eq_reverse, List.getLast?_reverse] at last
  exact head_trimStart c last

theorem exists_trimEnd (s : List Char) : ∃ behind, IsBlanks behind ∧ s = trimEnd s ++ behind := by
  obtain ⟨front, blank, split⟩ := exists_trimStart s.reverse
  refine ⟨front.reverse, by simpa [IsBlanks] using blank, ?_⟩
  rw [trimEnd_eq_reverse, ← List.reverse_append, ← split, List.reverse_reverse]

theorem trimEnd_append {behind : List Char} (h : IsBlanks behind) :
    trimEnd (s ++ behind) = trimEnd s := by
  have blank : IsBlanks behind.reverse := by simpa [IsBlanks] using h
  rw [trimEnd_eq_reverse, List.reverse_append, trimStart_append blank, ← trimEnd_eq_reverse]

theorem trimEnd_eq_self (h : ∀ c ∈ s.getLast?, isBlank c = false) : trimEnd s = s := by
  rw [trimEnd_eq_reverse, trimStart_eq_self (by simpa using h), List.reverse_reverse]

/-! ## Both ends -/

theorem isStripped_trim (s : List Char) : IsStripped (trim s) := by
  refine ⟨?_, last_trimEnd⟩
  intro c first
  -- What stands first behind both steps stood first behind the first one.
  obtain ⟨behind, -, split⟩ := exists_trimEnd (trimStart s)
  refine head_trimStart (s := s) c ?_
  rw [split, Option.mem_def, List.head?_append, ← trim, Option.mem_def.1 first, Option.some_or]

/-- What is left of a text has no blank at either end, and there are only blanks around it. -/
theorem trim_eq_iff : trim s = t ↔ IsStripped t ∧
    ∃ before behind, s = before ++ t ++ behind ∧ IsBlanks before ∧ IsBlanks behind := by
  constructor
  · rintro rfl
    obtain ⟨before, blank, split⟩ := exists_trimStart s
    obtain ⟨behind, blank', split'⟩ := exists_trimEnd (trimStart s)
    refine ⟨isStripped_trim s, before, behind, ?_, blank, blank'⟩
    rw [trim, List.append_assoc, ← split', ← split]
  · rintro ⟨⟨first, last⟩, before, behind, rfl, blank, blank'⟩
    rw [trim, List.append_assoc, trimStart_append blank]
    cases t with
    | nil =>
      have none := trimStart_append (s := []) blank'
      rw [List.append_nil] at none
      rw [List.nil_append, none]
      rfl
    | cons c rest =>
      rw [trimStart_eq_self (by simpa using first), trimEnd_append blank', trimEnd_eq_self last]

/-- Nothing is left of blanks, and of nothing else. -/
theorem trim_eq_nil_iff : trim s = [] ↔ IsBlanks s := by
  rw [trim_eq_iff]
  constructor
  · rintro ⟨-, before, behind, rfl, blank, blank'⟩
    intro c mem
    rw [List.append_nil] at mem
    exact (List.mem_append.1 mem).elim (blank c) (blank' c)
  · intro blank
    exact ⟨by simp [IsStripped], s, [], by simp, blank, by simp [IsBlanks]⟩

/-- What is not blank is left. -/
theorem mem_trim {c : Char} (mem : c ∈ s) (visible : isBlank c = false) : c ∈ trim s := by
  obtain ⟨-, before, behind, split, blank, blank'⟩ := trim_eq_iff.1 (rfl : trim s = trim s)
  rw [split, List.append_assoc] at mem
  rcases List.mem_append.1 mem with front | other
  · simp [blank c front] at visible
  · rcases List.mem_append.1 other with left | back
    · exact left
    · simp [blank' c back] at visible

@[simp] theorem trim_trim (s : List Char) : trim (trim s) = trim s :=
  trim_eq_iff.2 ⟨isStripped_trim s, [], [], by simp, by simp [IsBlanks], by simp [IsBlanks]⟩

/-! ## Strings -/

theorem toList_strip (s : String) : (strip s).toList = trim s.toList := String.toList_ofList

theorem strip_eq_empty_iff {s : String} : strip s = "" ↔ IsBlanks s.toList := by
  rw [← trim_eq_nil_iff, ← toList_strip, String.toList_eq_nil_iff]

end BenchJob.Text
