import BenchJob.Proofs.Job.Session
import BenchJob.Proofs.Overrides
import BenchJob.Proofs.Terminal

/-!
# The overrides of a builder, wherever they show

The flags of a builder's overrides are put one behind the other in two places: a job does it for the
arguments of its app, and the report on overrides does it for whoever wants to know what a job would
get. Both list the overrides beside the flags. A name may have the fragments of several overrides in
it, and these may overlap; both places go through the table in the same order.

## Main definitions

- `Invocation.Overridden`: an invocation has the overrides of a job, in their place.

## Main statements

- `Job.overridden_of_invocation?`: every invocation of a job has its overrides.
- `OverridesReport.member?_sorted`: the members of a report on overrides.
- `Override.matching_agrees`: which overrides a builder has, and that all places agree on them.
-/

namespace BenchJob

/-! ## Invocations -/

/-- The invocation names the overrides of the job's builder, and has their flags behind the resource
directory and the files for the results, in front of the job's own arguments. -/
structure Invocation.Overridden (i : Invocation) (j : Job) : Prop where
  fragments : i.overrides = (Override.matching j.builder).map (·.fragment)
  flags : i.args = ["-i", j.resourceDir] ++ (i.recording.map Recording.flags).getD [] ++
    Override.flagsFor j.builder ++ j.benchArgs

theorem Job.overridden_assemble (j : Job) (recording : Option Recording) :
    (j.assemble recording).Overridden j := ⟨rfl, rfl⟩

/-- Whatever puts an invocation of a job together, it has the overrides of the job. -/
theorem Job.overridden_of_invocation? {σ : Type} {c : Job.Call σ} {j : Job} {s : σ} {i : Invocation}
    (h : (c.step j s).reply.invocation? = some i) : i.Overridden j := by
  obtain ⟨source, -, assembled⟩ := exec_of_invocation? h
  rw [exec_invocation] at assembled
  cases kept : j.perfDataDir with
  | none =>
    simp only [kept] at assembled
    obtain rfl := Except.ok.inj assembled
    exact j.overridden_assemble none
  | some dir =>
    simp only [kept] at assembled
    obtain ⟨seconds, -, rfl⟩ := ok_of_map_eq_ok assembled
    exact j.overridden_assemble (some (j.recordingAt seconds))

/-! ## Reports -/

def Override.entry (o : Override) : Json :=
  .obj [("args", .strings o.flags), ("fragment", .str o.fragment)]

theorem Override.sorted_toJson (o : Override) : o.toJson.sorted = o.entry := by
  have strings := Json.sorted_of_canonical (Json.canonical_strings o.flags)
  have before : "args" < "fragment" := by decide
  simp [toJson, entry, Json.sorted, Json.sortedMembers, Json.insertMember, strings, before]

theorem Json.sortedItems_eq_map (items : List Json) : sortedItems items = items.map sorted := by
  induction items with
  | nil => rfl
  | cons item rest ih => rw [sortedItems, ih, List.map_cons]

namespace OverridesReport

/-- The data of a report on overrides has a member for each field that is set. -/
theorem member?_sorted (r : OverridesReport) (key : String) :
    r.toJson.sorted.member? key = (r.fields.lookup key).join.map Json.sorted := by
  rw [toJson_eq, Json.sorted, Json.member?_obj]
  exact Json.lookup_sorted_present key (by simp [fields])

theorem member?_builder (r : OverridesReport) :
    r.toJson.sorted.member? "builder_name" = r.builder.map .str := by
  rw [member?_sorted]
  cases named : r.builder <;> simp [fields, named, Json.sorted]

theorem member?_entries (r : OverridesReport) :
    r.toJson.sorted.member? "entries" = some (.arr (r.entries.map Override.entry)) := by
  have entries : Json.sortedItems (r.entries.map Override.toJson) =
      r.entries.map Override.entry := by
    rw [Json.sortedItems_eq_map, List.map_map]
    exact List.map_congr_left fun o _ => o.sorted_toJson
  rw [member?_sorted, ← entries]
  rfl

theorem member?_flags (r : OverridesReport) :
    r.toJson.sorted.member? "extra_args" = r.flags.map .strings := by
  rw [member?_sorted]
  cases flags : r.flags with
  | none => simp [fields, flags, Json.lookup_cons_ite]
  | some args =>
    simp [fields, flags, Json.lookup_cons_ite,
      Json.sorted_of_canonical (Json.canonical_strings args)]

end OverridesReport

/-- The envelope of a report on the overrides of a builder has the report as its data. -/
theorem envelope_overrides (w : World) (sink : Sink) (builder : Option String) :
    (execute w sink (.overrides builder)).envelope.member? "data" =
      some (OverridesReport.ofBuilder builder).toJson.sorted := by
  have answered := (execute_eq (data_overrides_leaves w builder) sink).1
  rw [Execution.envelope, answered]
  rfl

/-! ## Agreement -/

/-- The overrides of a builder are the entries of the table whose fragment is in the name of the
builder, each once and in table order, and a longer name keeps them. Every invocation of a job names
them and has their flags in place, and the report on the builder lists the same entries and the same
flags. -/
theorem Override.matching_agrees (builder : String) :
    (matching builder).Sublist table ∧ (matching builder).Nodup ∧
    (∀ e, e ∈ matching builder ↔
      e ∈ table ∧ ∃ before behind, builder = before ++ e.fragment ++ behind) ∧
    (∀ before behind, (matching builder).Sublist (matching (before ++ builder ++ behind))) ∧
    (∀ j : Job, j.builder = builder → ∀ (σ : Type) (c : Job.Call σ) (s : σ) (i : Invocation),
      (c.step j s).reply.invocation? = some i →
      i.overrides = (matching builder).map (·.fragment) ∧
      i.args = ["-i", j.resourceDir] ++ (i.recording.map Recording.flags).getD [] ++
        flagsFor builder ++ j.benchArgs) ∧
    ∀ (w : World) (sink : Sink), ∃ data,
      (execute w sink (.overrides (some builder))).envelope.member? "data" = some data ∧
      data.member? "builder_name" = some (.str builder) ∧
      data.member? "entries" = some (.arr ((matching builder).map fun e =>
        .obj [("args", .strings e.flags), ("fragment", .str e.fragment)])) ∧
      data.member? "extra_args" = some (.strings ((matching builder).flatMap (·.flags))) := by
  refine ⟨matching_sublist builder, nodup_matching builder, fun e => mem_matching_iff, ?_, ?_, ?_⟩
  · intro before behind
    exact matching_sublist_of_infix (infix_toList_iff.2 ⟨before, behind, rfl⟩)
  · rintro j rfl σ c s i h
    have overridden := Job.overridden_of_invocation? h
    exact ⟨overridden.fragments, overridden.flags⟩
  · intro w sink
    let report := OverridesReport.ofBuilder (some builder)
    exact ⟨_, envelope_overrides w sink (some builder), report.member?_builder,
      report.member?_entries, report.member?_flags⟩

/-- A job for a builder whose name has two fragments in it that overlap. -/
def Sample.overlapping : Job := Job.new "Perf-Android-GalaxyNexusS" "r1" "/res" "/perf"

/-- A builder with two fragments that overlap in its name gets the flags of both. -/
theorem Override.sample_matching_agrees :
    ∃ i, ((Job.Call.invocation (pure 0 : Act Unit Int)).step Sample.overlapping ()).reply =
        .assembled (.ok i) ∧
      i.overrides = ["GalaxyNexus", "NexusS"] ∧
      i.args = ["-i", "/res", "--match", "~DeferredSurfaceCopy",
        "--match", "~DeferredSurfaceCopy"] := by
  obtain ⟨-, -, -, -, invocations, -⟩ := matching_agrees Sample.overlapping.builder
  have matching : (matching Sample.overlapping.builder).map (·.fragment) =
      ["GalaxyNexus", "NexusS"] := rfl
  have flags : flagsFor Sample.overlapping.builder =
      ["--match", "~DeferredSurfaceCopy", "--match", "~DeferredSurfaceCopy"] := rfl
  obtain ⟨fragments, args⟩ := invocations Sample.overlapping rfl Unit
    (.invocation (pure 0)) () (Sample.overlapping.assemble none) rfl
  exact ⟨_, rfl, fragments.trans matching, by rw [args, flags]; rfl⟩

end BenchJob
