import BenchJob.Proofs.Config.Document
import BenchJob.Proofs.Config.Stack
import BenchJob.Proofs.Json.Layout

/-!
# Configurations saved and loaded

The stored form of a configuration has a member for each field that is set, in the order of the
fields, and one for the arguments if there are any. Loading a text of that form gives back the
configuration, whatever blanks the text has: a field without a member is left open, and an empty
text is a member while an open field is none.

So a layer may be saved and loaded between any two steps. The layers of a command line may be merged
first, and their merge saved as a file for a command line without flags.

## Main definitions

- `Config.member?`: what the stored form of a configuration has for a field.

## Main statements

- `Config.storedAs_toJson`: a configuration is stored by its own stored form.
- `Config.saved_loads`: what is saved is loaded again.
-/

namespace BenchJob

open Json (Reading)
open Json.Grammar

namespace Config

/-! ## The stored form -/

/-- What the stored form of a configuration has for a field: nothing for an open text and for no
arguments. -/
def member? (c : Config) : Key → Option Reading
  | .text field => (c.get field).map .str
  | .benchArgs => if c.benchArgs.isEmpty then none else some (.arr (c.benchArgs.map .str))

theorem reading_eq_getD (c : Config) (key : Key) :
    c.reading key = (c.member? key).getD key.default := by
  cases key with
  | text field =>
    rw [reading, member?]
    cases c.get field <;> rfl
  | benchArgs =>
    rw [reading, member?]
    cases c.benchArgs <;> rfl

theorem ofMembers_optional (c : Config) (fields : List Field) :
    Reading.ofMembers (fields.flatMap fun field => Json.optional field.name .str (c.get field)) =
      fields.filterMap fun field => (c.member? (.text field)).map (field.name, ·) := by
  induction fields with
  | nil => rfl
  | cons field fields ih =>
    rw [List.flatMap_cons, Reading.ofMembers_append, ih, List.filterMap_cons]
    cases held : c.get field <;> simp [member?, held, Json.optional, Reading.ofMembers,
      Reading.ofJson]

theorem ofMembers_argsMember (c : Config) :
    Reading.ofMembers (argsMember c.benchArgs) =
      ((c.member? .benchArgs).map (Key.benchArgs.name, ·)).toList := by
  rw [argsMember, member?]
  split
  · rfl
  · simp [Reading.ofMembers, Json.strings, Reading.ofJson, Reading.ofItems_eq_map,
      Function.comp_def]

/-- The members of the stored form, in the order of the fields. -/
theorem ofJson_toJson (c : Config) :
    Reading.ofJson c.toJson =
      .obj (Key.all.filterMap fun key => (c.member? key).map (key.name, ·)) := by
  rw [toJson, Reading.ofJson, Reading.ofMembers_append, textMembers, ofMembers_optional,
    ofMembers_argsMember, Key.all, List.filterMap_append, List.filterMap_map]
  rfl

/-- Members that give what is missing of a configuration lead to it. -/
theorem gathers_members {c d : Config} {keys seen : List Key} (distinct : keys.Nodup)
    (fresh : ∀ key ∈ keys, key ∉ seen)
    (others : ∀ key, (key ∈ keys → c.member? key = none) → d.reading key = c.reading key) :
    d.Gathers seen (keys.filterMap fun key => (c.member? key).map (key.name, ·)) c := by
  induction keys generalizing d seen with
  | nil => exact gathers_nil_iff.2 (eq_of_reading fun key => (others key (by simp)).symm)
  | cons key keys ih =>
    obtain ⟨absent, distinct⟩ := List.nodup_cons.1 distinct
    cases held : c.member? key with
    | none =>
      rw [List.filterMap_cons_none (by rw [held, Option.map_none])]
      refine ih distinct (fun other mem => fresh other (List.mem_cons_of_mem _ mem)) ?_
      intro other missing
      refine others other fun mem => ?_
      rcases List.mem_cons.1 mem with rfl | behind
      · exact held
      · exact missing behind
    | some v =>
      rw [List.filterMap_cons_some (by rw [held, Option.map_some])]
      refine gathers_cons_iff.2 ⟨key, fresh key List.mem_cons_self, rfl, ?_, ih distinct ?_ ?_⟩
      · rw [reading_eq_getD, held, Option.getD_some]
      · intro other mem seen
        rcases List.mem_cons.1 seen with rfl | before
        · exact absent mem
        · exact fresh other (List.mem_cons_of_mem _ mem) before
      · intro other missing
        rw [reading_put]
        by_cases same : other = key
        · rw [if_pos same, same]
        · rw [if_neg same]
          refine others other fun mem => ?_
          exact missing ((List.mem_cons.1 mem).resolve_left same)

/-- A configuration is stored by its own stored form. -/
theorem storedAs_toJson (c : Config) : c.StoredAs (.ofJson c.toJson) := by
  rw [ofJson_toJson, storedAs_obj_iff]
  refine gathers_members (by decide) (by simp) ?_
  intro key missing
  rw [reading_empty, reading_eq_getD, missing key.mem_all, Option.getD_none]

/-- Every text of the stored form is read as the configuration. -/
theorem ofText?_of_document {c : Config} {text : String}
    (h : Document text.toList (.ofJson c.toJson)) : ofText? text = .ok c :=
  ofText?_eq_ok_iff.2 ⟨_, h, storedAs_toJson c⟩

end Config

/-- What is loaded for a command line whose config file is named. -/
theorem StepOptions.layers_of_file {w : World} {name : Text.Bytes} {flags file : Config}
    (h : Config.load w (Path.expandHome w.home (Text.decodeLossy name)) = .ok file) :
    StepOptions.layers w ⟨some name, flags⟩ = .ok (file.merge flags) := by
  have loaded : (Config.loadOrDefault w (some (Text.decodeLossy name))).Leaves (.ok file)
      Log.empty := by
    rw [← h]
    exact .ofExcept _
  rw [layers, Option.map_some, loaded.result_eq]
  rfl

namespace Config

/-- A configuration that is saved is loaded again: every text of its stored form is read as it, in
particular the text over several lines and the one without blanks, and so is every file with such a
text. That holds for a configuration that comes from a text, too. A command line with a config file
and flags has the settings of one without flags whose config file holds the merge of both. -/
theorem saved_loads :
    (∀ (c : Config) text, Document text.toList (.ofJson c.toJson) → ofText? text = .ok c) ∧
    (∀ c : Config, ofText? c.toJson.pretty = .ok c ∧ ofText? c.toJson.compact = .ok c) ∧
    (∀ (w : World) path text (c : Config), Document text.toList (.ofJson c.toJson) →
      w.files.Holds path (Text.encode text) → load w path = .ok c) ∧
    (∀ given again c, ofText? given = .ok c → Document again.toList (.ofJson c.toJson) →
      ofText? again = .ok c) ∧
    ∀ (w w' : World) (o : StepOptions) (file : Config) (name : Text.Bytes) (text : String),
      (loadOrDefault w (o.configFile.map Text.decodeLossy)).result = .ok file →
      w'.home = w.home →
      w'.files.Holds (Path.expandHome w'.home (Text.decodeLossy name)) (Text.encode text) →
      Document text.toList (.ofJson (file.merge o.flags).toJson) →
      (settingsOf w' ⟨some name, empty⟩).result = (settingsOf w o).result := by
  refine ⟨fun c text => ofText?_of_document, ?_, ?_, ?_, ?_⟩
  · intro c
    exact ⟨ofText?_of_document (Json.document_pretty _),
      ofText?_of_document (Json.document_compact _)⟩
  · intro w path text c written held
    exact load_of_ok held (ofText?_of_document written)
  · intro given again c _ written
    exact ofText?_of_document written
  · intro w w' o file name text loaded sameHome held written
    have saved : StepOptions.layers w' ⟨some name, empty⟩ = .ok (file.merge o.flags) := by
      rw [StepOptions.layers_of_file (load_of_ok held (ofText?_of_document written)), merge_empty]
    have layers : o.layers w = .ok (file.merge o.flags) := by
      rw [StepOptions.layers, loaded]
      rfl
    rw [result_settingsOf, result_settingsOf, saved, layers, sameHome]

end Config

end BenchJob
