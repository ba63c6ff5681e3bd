import BenchJob.Proofs.Json.Documents
import BenchJob.Proofs.Json.Layout

/-!
# Values read back

The text of a value is a document of the grammar in every layout, and documents are what the reader
reads. So what is printed of a value is read as the value, at any depth and with any blanks between
its tokens and behind it. No two values have the same reading, so no text stands for two of them.

## Main statements

- `Layout.read?_text`: a value is read as itself, whatever its layout is.
- `read?_pretty`: a value printed over several lines is read as itself.
- `ofJson_injective`: values that are read the same are the same.
-/

namespace BenchJob.Json

open Grammar

/-! ## Layouts -/

theorem blanks_of_isSpace {blanks : List Char} (h : ∀ c ∈ blanks, isSpace c = true) :
    Blanks blanks [] := by
  have all : ∀ c ∈ blanks, IsBlank c := fun c mem => isSpace_iff.1 (h c mem)
  simpa using blanks_append all []

/-- A value in a layout is read as itself, whatever blanks follow it. -/
theorem Layout.read?_text (l : Layout) (v : Json) (blanks : List Char)
    (h : ∀ c ∈ blanks, isSpace c = true) :
    read? (l.text v ++ String.ofList blanks) = some (.ofJson v) := by
  refine read?_eq_some_iff.2 ?_
  rw [String.toList_append, Layout.text, String.toList_ofList, String.toList_ofList]
  exact ⟨_, blanks, .nil _, l.value_chars 0 blanks v, blanks_of_isSpace h⟩

/-- A printed value is read as itself, whatever blanks follow it. -/
theorem read?_pretty (v : Json) (blanks : List Char) (h : ∀ c ∈ blanks, isSpace c = true) :
    read? (v.pretty ++ String.ofList blanks) = some (.ofJson v) := by
  have read := Layout.lines.read?_text v blanks h
  rwa [Layout.text, Layout.lines_chars] at read

/-! ## Different values -/

mutual

/-- Values with the same reading are the same. -/
theorem ofJson_injective : ∀ v w : Json, Reading.ofJson v = .ofJson w → v = w
  | .null, w, h => by cases w <;> simp_all [Reading.ofJson]
  | .bool b, w, h => by cases w <;> simp_all [Reading.ofJson]
  | .int n, w, h => by cases w <;> simp_all [Reading.ofJson]
  | .str s, w, h => by cases w <;> simp_all [Reading.ofJson]
  | .arr items, w, h => by
    cases w with
    | arr items' =>
      simp only [Reading.ofJson, Reading.arr.injEq] at h
      rw [ofItems_injective items items' h]
    | _ => simp [Reading.ofJson] at h
  | .obj members, w, h => by
    cases w with
    | obj members' =>
      simp only [Reading.ofJson, Reading.obj.injEq] at h
      rw [ofMembers_injective members members' h]
    | _ => simp [Reading.ofJson] at h

theorem ofItems_injective : ∀ v w : List Json, Reading.ofItems v = Reading.ofItems w → v = w
  | [], w, h => by cases w <;> simp_all [Reading.ofItems]
  | item :: rest, w, h => by
    cases w with
    | nil => simp [Reading.ofItems] at h
    | cons item' rest' =>
      simp only [Reading.ofItems, List.cons.injEq] at h
      rw [ofJson_injective item item' h.1, ofItems_injective rest rest' h.2]

theorem ofMembers_injective :
    ∀ v w : List (String × Json), Reading.ofMembers v = Reading.ofMembers w → v = w
  | [], w, h => by
    cases w with
    | nil => rfl
    | cons member rest => simp [Reading.ofMembers] at h
  | (key, value) :: rest, w, h => by
    cases w with
    | nil => simp [Reading.ofMembers] at h
    | cons member rest' =>
      obtain ⟨key', value'⟩ := member
      simp only [Reading.ofMembers, List.cons.injEq, Prod.mk.injEq] at h
      obtain ⟨⟨rfl, value_eq⟩, rest_eq⟩ := h
      rw [ofJson_injective value value' value_eq, ofMembers_injective rest rest' rest_eq]

end

end BenchJob.Json
