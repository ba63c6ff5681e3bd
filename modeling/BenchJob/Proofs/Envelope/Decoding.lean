import BenchJob.Envelope
import BenchJob.Proofs.Json.RoundTrip
import BenchJob.Proofs.Reports

/-!
# Envelopes read back

Whoever reads an envelope as JSON gets back what the command came to: its data, or the code, the
message, the details and the hints of its failure. Different results therefore have different texts.
The members of the data stand in the order of their keys; data that has them in this order already
is read back as it is.

## Main definitions

- `Envelope.reading`: what an envelope is read as.
- `Envelope.Canonical`: a result whose values have their members in order.

## Main statements

- `Envelope.read?_text`: an envelope is read as what it was made from.
- `Envelope.eq_of_value_eq`: different results have different envelopes.
- `Envelope.text_decodes`: what the text of an envelope tells, for all results and for the reports.
-/

namespace BenchJob

open Json (Reading read?)

namespace Envelope

/-! ## Reading -/

def failureReading (f : Failure) : Reading :=
  .obj ([("code", .str f.code.text), ("message", .str f.message),
    ("details", .ofJson f.details.sorted)] ++
    if f.hints = [] then []
    else [("hints", .arr (f.hints.map fun hint => .obj [("message", .str hint)]))])

/-- What an envelope is read as: an object with the data or with the failure, and nothing else. -/
def reading : Except Failure Json → Reading
  | .ok data => .obj [("success", .bool true), ("data", .ofJson data.sorted)]
  | .error f => .obj [("success", .bool false), ("error", failureReading f)]

theorem ofJson_ofFailure (f : Failure) : Reading.ofJson (ofFailure f) = failureReading f := by
  have hints : Reading.ofItems (f.hints.map hintItem) =
      f.hints.map fun hint => .obj [("message", .str hint)] := by
    rw [Reading.ofItems_eq_map, List.map_map]
    rfl
  rw [ofFailure, Reading.ofJson, Reading.ofMembers_append, failureReading, hintsMember]
  by_cases none : f.hints = []
  · simp [none, Reading.ofMembers, Reading.ofJson]
  · simp [none, Reading.ofMembers, Reading.ofJson, hints]

theorem ofJson_value (result : Except Failure Json) : Reading.ofJson (value result) = reading result := by
  cases result with
  | ok data => rfl
  | error f => simp [value, reading, Reading.ofJson, Reading.ofMembers, ofJson_ofFailure]

/-- An envelope is read as what it was made from, with the line break at its end or without. -/
theorem read?_text (result : Except Failure Json) :
    read? (value result).pretty = some (reading result) ∧
      read? (text result) = some (reading result) := by
  rw [← ofJson_value]
  constructor
  · simpa using Json.read?_pretty (value result) [] (by simp)
  · exact Json.read?_pretty (value result) ['\n'] (by simp [Json.isSpace])

/-! ## Different results -/

/-- A result whose data or details have the members of all objects in the order of their keys. -/
def Canonical : Except Failure Json → Prop
  | .ok data => data.Canonical
  | .error f => f.details.Canonical

theorem code_text_injective {a b : Failure.Code} (h : a.text = b.text) : a = b := by
  cases a <;> cases b <;> first | rfl | exact absurd h (by decide)

theorem hintsMember_injective {a b : List String} (h : hintsMember a = hintsMember b) : a = b := by
  cases a with
  | nil =>
    cases b with
    | nil => rfl
    | cons hint rest => simp [hintsMember] at h
  | cons hint rest =>
    cases b with
    | nil => simp [hintsMember] at h
    | cons hint' rest' =>
      have item : ∀ x y, hintItem x = hintItem y → x = y := by
        intro x y eq
        simpa [hintItem] using eq
      have items : (hint :: rest).map hintItem = (hint' :: rest').map hintItem := by
        simpa [hintsMember] using h
      exact (List.map_inj_right item).1 items

/-- Envelopes with the same members were made from results that are the same once sorted. -/
theorem eq_of_value_eq {a b : Except Failure Json} (ha : Canonical a) (hb : Canonical b)
    (h : value a = value b) : a = b := by
  cases a with
  | ok data =>
    cases b with
    | ok data' =>
      have sorted : data.sorted = data'.sorted := by simpa [value] using h
      rw [Json.sorted_of_canonical ha, Json.sorted_of_canonical hb] at sorted
      rw [sorted]
    | error g => simp [value] at h
  | error f =>
    cases b with
    | ok data' => simp [value] at h
    | error g =>
      obtain ⟨code, message, details, hints⟩ := f
      obtain ⟨code', message', details', hints'⟩ := g
      simp only [value, ofFailure, Json.obj.injEq, List.cons_append, List.nil_append,
        List.cons.injEq, Prod.mk.injEq, Json.str.injEq, true_and, and_true] at h
      obtain ⟨code_eq, message_eq, details_eq, hints_eq⟩ := h
      have canonical : details.Canonical := ha
      have canonical' : details'.Canonical := hb
      rw [Json.sorted_of_canonical canonical, Json.sorted_of_canonical canonical'] at details_eq
      rw [code_text_injective code_eq, message_eq, details_eq, hintsMember_injective hints_eq]

/-- An envelope ends with the brace of its object. -/
theorem getLast?_pretty (result : Except Failure Json) :
    (value result).pretty.toList.getLast? = some '\x7d' := by
  have object : ∃ member rest, value result = .obj (member :: rest) := by
    cases result with
    | ok data => exact ⟨_, _, rfl⟩
    | error f => exact ⟨_, _, rfl⟩
  obtain ⟨member, rest, shape⟩ := object
  rw [shape, Json.pretty, String.toList_ofList, Json.chars, List.getLast?_append]
  rfl

theorem value_eq_of_text_eq {a b : Except Failure Json} (h : text a = text b) :
    value a = value b := by
  refine Json.ofJson_injective _ _ ?_
  have read := (read?_text a).2
  rw [h, (read?_text b).2, ← ofJson_value, ← ofJson_value] at read
  exact (Option.some.inj read).symm

theorem sorted_eq_of_text_eq {data data' : Json} (h : text (.ok data) = text (.ok data')) :
    data.sorted = data'.sorted := by
  simpa [value] using value_eq_of_text_eq h

/-- The text of an envelope is one JSON text and a line break. It is read as the data with its
members in order, or as the failure with its code, its message, its details and its hints. Values
with their members in order are read as they are, and the data of a report has one member for each
field that is set. Different results and different reports have different texts. -/
theorem text_decodes :
    (∀ result, ∃ document : String, text result = document ++ "\n" ∧
      document.toList.getLast? = some '\x7d' ∧ read? document = some (reading result) ∧
      read? (text result) = some (reading result)) ∧
    (∀ v : Json, v.sorted.Canonical ∧ (v.Canonical → v.sorted = v)) ∧
    (∀ r : RunReport, r.toJson.sorted.Shows r.fields) ∧
    (∀ r : PlanReport, r.toJson.sorted.Shows r.fields) ∧
    (∀ a b, Canonical a → Canonical b → text a = text b → a = b) ∧
    (∀ r r' : RunReport, text (.ok r.toJson) = text (.ok r'.toJson) → r = r') ∧
    (∀ r r' : PlanReport, text (.ok r.toJson) = text (.ok r'.toJson) → r = r') ∧
    (∀ r r' : OverridesReport, text (.ok r.toJson) = text (.ok r'.toJson) → r = r') := by
  refine ⟨?_, fun v => ⟨Json.canonical_sorted v, Json.sorted_of_canonical⟩,
    RunReport.shows_fields, PlanReport.shows_fields, ?_, ?_, ?_, ?_⟩
  · intro result
    obtain ⟨document, whole⟩ := read?_text result
    exact ⟨(value result).pretty, rfl, getLast?_pretty result, document, whole⟩
  · intro a b ha hb same
    exact eq_of_value_eq ha hb (value_eq_of_text_eq same)
  · exact fun r r' same => RunReport.eq_of_sorted_eq (sorted_eq_of_text_eq same)
  · exact fun r r' same => PlanReport.eq_of_sorted_eq (sorted_eq_of_text_eq same)
  · exact fun r r' same => OverridesReport.eq_of_sorted_eq (sorted_eq_of_text_eq same)

/-- Failures that differ in a hint only have different texts. -/
theorem sample_text_decodes :
    text (.error (.unexpected "\n")) ≠
      text (.error ((Failure.unexpected "\n").withHint "retry")) := by
  have details : (Json.obj [("error", .str "\n")]).Canonical := by
    refine .obj (by simp [Json.Ordered]) ?_
    simp [Json.Canonical.str]
  obtain ⟨-, -, -, -, different, -⟩ := text_decodes
  intro same
  have failures := different (.error (.unexpected "\n"))
    (.error ((Failure.unexpected "\n").withHint "retry")) details details same
  simp [Failure.unexpected, Failure.withHint] at failures

end Envelope

end BenchJob
