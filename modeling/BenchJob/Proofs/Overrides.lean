import Mathlib.Data.List.Infix
import BenchJob.Overrides

/-!
# Which overrides apply

An override applies to the builders whose name has its fragment in it, with anything before and
behind it. The overrides of a builder are therefore entries of the table in table order, and a longer
name that has the builder's in it loses none of them.

## Main statements

- `occursIn_iff`: a word occurs in a text exactly if it is an infix of it.
- `Override.mem_matching_iff`: the overrides of a builder.
- `Override.matching_sublist_of_infix`: overrides are kept by longer names.
- `Override.flagsFor_eq`: the flags of a builder, in terms of infixes.
-/

namespace BenchJob

theorem occursIn_iff {word text : List Char} : occursIn word text = true ↔ word <:+: text := by
  induction text with
  | nil => simp [occursIn]
  | cons c rest ih => simp [occursIn, ih, List.infix_cons_iff]

/-- A word is in a text exactly if the text is the word with something before and behind it. -/
theorem infix_toList_iff {word text : String} :
    word.toList <:+: text.toList ↔ ∃ before behind, text = before ++ word ++ behind := by
  constructor
  · rintro ⟨before, behind, split⟩
    refine ⟨String.ofList before, String.ofList behind, ?_⟩
    apply String.toList_injective
    simp [← split]
  · rintro ⟨before, behind, rfl⟩
    exact ⟨before.toList, behind.toList, by simp⟩

namespace Override

theorem appliesTo_iff {e : Override} {builder : String} :
    e.appliesTo builder = true ↔ e.fragment.toList <:+: builder.toList := occursIn_iff

/-- The overrides of a builder are the entries of the table whose fragment is in its name. -/
theorem mem_matching_iff {e : Override} {builder : String} :
    e ∈ matching builder ↔
      e ∈ table ∧ ∃ before behind, builder = before ++ e.fragment ++ behind := by
  rw [matching, List.mem_filter, appliesTo_iff, infix_toList_iff]

/-- The overrides of a builder stand in table order. -/
theorem matching_sublist (builder : String) : (matching builder).Sublist table :=
  List.filter_sublist

theorem nodup_table : table.Nodup := by decide

/-- No override of a builder comes twice. -/
theorem nodup_matching (builder : String) : (matching builder).Nodup :=
  nodup_table.sublist (matching_sublist builder)

/-- A name that has another one in it has all overrides of the other one. -/
theorem matching_sublist_of_infix {builder longer : String}
    (h : builder.toList <:+: longer.toList) : (matching builder).Sublist (matching longer) := by
  apply List.monotone_filter_right
  intro e applies
  rw [appliesTo_iff] at applies ⊢
  exact applies.trans h

/-- The flags of a builder are those of the table's entries whose fragment is in the name. -/
theorem flagsFor_eq (builder : String) :
    flagsFor builder =
      (table.filter fun e => e.fragment.toList <:+: builder.toList).flatMap (·.flags) := by
  have same : ∀ e ∈ table,
      e.appliesTo builder = decide (e.fragment.toList <:+: builder.toList) := by
    intro e _
    rw [Bool.eq_iff_iff, appliesTo_iff, decide_eq_true_iff]
  rw [flagsFor, matching, List.filter_congr same]

end Override

end BenchJob
