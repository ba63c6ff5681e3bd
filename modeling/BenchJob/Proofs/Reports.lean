import BenchJob.Proofs.Json.Order
import BenchJob.Report

/-!
# The data of reports

The report of a run takes the fields of its plan, of the plan's invocation and of the invocation's
recording into one object. No two of these fields have the same key, so none takes the place of
another: the object has exactly one member for each field that is set, and two reports with the same
data are the same.

## Main definitions

- `PlanReport.fields` and the like: the fields of a report under their keys, the optional ones as
  options.
- `Json.Shows`: an object has a member for each field that is set, and no other member.

## Main statements

- `PlanReport.shows_fields`, `RunReport.shows_fields`: the data of a report shows its fields.
- `PlanReport.eq_of_sorted_eq` and the like: different reports have different data.
-/

namespace BenchJob

/-! ## Fields -/

namespace Json

def present (fields : List (String × Option Json)) : List (String × Json) :=
  fields.filterMap fun field => field.2.map (field.1, ·)

/-- The value is an object with one member for each field that is set, in the order of their keys,
and with no other member. -/
def Shows (data : Json) (fields : List (String × Option Json)) : Prop :=
  ∃ members, data = .obj members ∧ Ordered members ∧
    ∀ key, members.lookup key = (fields.lookup key).join

variable {fields other : List (String × Option Json)} {data : Json}

theorem keys_present_sublist :
    ((present fields).map (·.1)).Sublist (fields.map (·.1)) := by
  induction fields with
  | nil => exact .slnil
  | cons field rest ih =>
    obtain ⟨key, value⟩ := field
    cases value with
    | none => exact ih.cons key
    | some v => exact ih.cons_cons key

theorem lookup_present (key : String) (h : (fields.map (·.1)).Nodup) :
    (present fields).lookup key = (fields.lookup key).join := by
  induction fields with
  | nil => rfl
  | cons field rest ih =>
    obtain ⟨name, value⟩ := field
    obtain ⟨absent, distinct⟩ := List.nodup_cons.1 h
    rw [lookup_cons_ite]
    cases value with
    | none =>
      rw [show present ((name, none) :: rest) = present rest from rfl, ih distinct]
      split
      · rename_i same
        subst same
        rw [lookup_eq_none absent]
        rfl
      · rfl
    | some v =>
      rw [show present ((name, some v) :: rest) = (name, v) :: present rest from rfl,
        lookup_cons_ite, ih distinct]
      split <;> rfl

/-- An object made of fields with different keys holds all of them, and sorting keeps them. -/
theorem lookup_sorted_present (key : String) (h : (fields.map (·.1)).Nodup) :
    (sortedMembers (present fields) []).lookup key = (fields.lookup key).join.map sorted := by
  have distinct : ((present fields).map (·.1)).Nodup := h.sublist keys_present_sublist
  rw [lookup_sortedMembers key [] distinct, lookup_present key h, List.lookup_nil, Option.or_none]

/-- Fields with different keys and canonical values are shown by the object that is made of them. -/
theorem shows_of_fields (keys : (fields.map (·.1)).Nodup)
    (values : ∀ field ∈ fields, ∀ v ∈ field.2, v.Canonical) :
    (Json.obj (present fields)).sorted.Shows fields := by
  refine ⟨sortedMembers (present fields) [], rfl, ?_, ?_⟩
  · exact (canonical_sortedMembers (present fields) [] .nil (by simp)).1
  · intro key
    rw [lookup_sorted_present key keys]
    cases shown : (fields.lookup key).join with
    | none => rfl
    | some v =>
      have set : fields.lookup key = some (some v) := Option.join_eq_some_iff.1 shown
      obtain ⟨before, behind, rfl, -⟩ := List.lookup_eq_some_iff.1 set
      rw [Option.map_some, sorted_of_canonical (values (key, some v) (by simp) v rfl)]

/-- Two lists of fields set the same keys to the same values. -/
def Agree (fields other : List (String × Option Json)) : Prop :=
  ∀ key, (fields.lookup key).join = (other.lookup key).join

theorem Shows.agree (h : data.Shows fields) (h' : data.Shows other) : Agree fields other := by
  intro key
  obtain ⟨members, rfl, -, held⟩ := h
  obtain ⟨members', eq, -, held'⟩ := h'
  obtain rfl := Json.obj.inj eq
  rw [← held, held']

/-- Fields that agree still do without the first ones, if no key comes twice. -/
theorem Agree.behind {first first' : List (String × Option Json)}
    (h : Agree (first ++ fields) (first' ++ other)) (keys : first.map (·.1) = first'.map (·.1))
    (absent : ∀ key ∈ first.map (·.1), key ∉ fields.map (·.1) ∧ key ∉ other.map (·.1)) :
    Agree fields other := by
  intro key
  by_cases mem : key ∈ first.map (·.1)
  · rw [lookup_eq_none (absent key mem).1, lookup_eq_none (absent key mem).2]
  · have mem' : key ∉ first'.map (·.1) := by rwa [← keys]
    have whole := h key
    rwa [List.lookup_append, List.lookup_append, lookup_eq_none mem, lookup_eq_none mem',
      Option.none_or, Option.none_or] at whole

theorem canonical_strings (items : List String) : (strings items).Canonical := by
  refine .arr ?_
  intro item mem
  obtain ⟨s, -, rfl⟩ := List.mem_map.1 mem
  exact .str s

theorem strings_injective {a b : List String} (h : strings a = strings b) : a = b := by
  have items := Json.arr.inj h
  exact (List.map_inj_right fun _ _ eq => Json.str.inj eq).1 items

end Json

open Json (Agree present)

/-! ## Reports -/

def Invocation.fields (i : Invocation) : List (String × Option Json) :=
  [("app", some (.str i.app)), ("args", some (.strings i.args)),
   ("overrides", some (.strings i.overrides)),
   ("data_file", i.recording.map fun r => .str r.logFile),
   ("json_data_file", i.recording.map fun r => .str r.resultsFile),
   ("commit_timestamp", i.recording.map fun r => .int r.timestamp),
   ("committed_at", i.recording.bind fun r => (Calendar.timestampText r.timestamp).map .str)]

def PlanReport.fields (r : PlanReport) : List (String × Option Json) :=
  [("builder_name", some (.str r.builder)), ("command", some (.str r.command))] ++
    r.invocation.fields

def RunReport.fields (r : RunReport) : List (String × Option Json) :=
  [("status", some (.str r.outcome.status)), ("exit_code", some (.int r.outcome.exitCode))] ++
    r.plan.fields

def Invocation.keys : List String :=
  ["app", "args", "overrides", "data_file", "json_data_file", "commit_timestamp", "committed_at"]

def PlanReport.keys : List String := ["builder_name", "command"] ++ Invocation.keys

def RunReport.keys : List String := ["status", "exit_code"] ++ PlanReport.keys

theorem Invocation.members_eq (i : Invocation) : i.members = present i.fields := by
  obtain ⟨app, args, overrides, recording⟩ := i
  cases recording with
  | none => rfl
  | some r =>
    cases date : Calendar.timestampText r.timestamp <;>
      simp [Invocation.members, Invocation.fields, Recording.members, present, Json.optional, date]

theorem Invocation.canonical_fields (i : Invocation) :
    ∀ field ∈ i.fields, ∀ v ∈ field.2, v.Canonical := by
  have date : ∀ v, (i.recording.bind fun r =>
      (Calendar.timestampText r.timestamp).map Json.str) = some v → v.Canonical := by
    intro v set
    obtain ⟨r, -, text⟩ := Option.bind_eq_some_iff.1 set
    obtain ⟨s, -, rfl⟩ := Option.map_eq_some_iff.1 text
    exact .str s
  simpa [fields, Json.canonical_strings, Json.Canonical.str, Json.Canonical.int] using date

theorem Invocation.eq_of_agree {i j : Invocation} (h : Agree i.fields j.fields) : i = j := by
  obtain ⟨app, args, overrides, recording⟩ := i
  obtain ⟨app', args', overrides', recording'⟩ := j
  have app_eq : app = app' := by
    simpa [fields, Json.lookup_cons_ite] using h "app"
  have args_eq : Json.strings args = Json.strings args' := by
    simpa [fields, Json.lookup_cons_ite] using h "args"
  have overrides_eq : Json.strings overrides = Json.strings overrides' := by
    simpa [fields, Json.lookup_cons_ite] using h "overrides"
  have recording_eq : recording = recording' := by
    have log_eq := h "data_file"
    have results_eq := h "json_data_file"
    have timestamp_eq := h "commit_timestamp"
    cases recording with
    | none =>
      cases recording' with
      | none => rfl
      | some r' => simp [fields, Json.lookup_cons_ite] at log_eq
    | some r =>
      cases recording' with
      | none => simp [fields, Json.lookup_cons_ite] at log_eq
      | some r' =>
        obtain ⟨log, results, timestamp⟩ := r
        simp_all [fields, Json.lookup_cons_ite]
  rw [app_eq, Json.strings_injective args_eq, Json.strings_injective overrides_eq, recording_eq]

namespace PlanReport

theorem toJson_eq (r : PlanReport) : r.toJson = .obj (present r.fields) := by
  rw [PlanReport.toJson, PlanReport.members, Invocation.members_eq]
  rfl

theorem keys_fields (r : PlanReport) : r.fields.map (·.1) = keys := rfl

theorem canonical_fields (r : PlanReport) : ∀ field ∈ r.fields, ∀ v ∈ field.2, v.Canonical := by
  refine List.forall_mem_append.2 ⟨?_, r.invocation.canonical_fields⟩
  simp [Json.Canonical.str]

/-- The data of a plan shows its fields. -/
theorem shows_fields (r : PlanReport) : r.toJson.sorted.Shows r.fields := by
  rw [toJson_eq]
  refine Json.shows_of_fields ?_ r.canonical_fields
  rw [keys_fields]
  decide

theorem eq_of_agree {r r' : PlanReport} (h : Agree r.fields r'.fields) : r = r' := by
  obtain ⟨builder, command, invocation⟩ := r
  obtain ⟨builder', command', invocation'⟩ := r'
  have builder_eq : builder = builder' := by
    simpa [fields, Json.lookup_cons_ite] using h "builder_name"
  have command_eq : command = command' := by
    simpa [fields, Json.lookup_cons_ite] using h "command"
  have other : ∀ key ∈ ["builder_name", "command"],
      key ∉ Invocation.keys ∧ key ∉ Invocation.keys := by decide
  have invocation_eq : invocation = invocation' := Invocation.eq_of_agree (h.behind rfl other)
  rw [builder_eq, command_eq, invocation_eq]

/-- Different plans have different data. -/
theorem eq_of_sorted_eq {r r' : PlanReport} (h : r.toJson.sorted = r'.toJson.sorted) : r = r' :=
  eq_of_agree (r.shows_fields.agree (h ▸ r'.shows_fields))

end PlanReport

namespace RunReport

theorem toJson_eq (r : RunReport) : r.toJson = .obj (present r.fields) := by
  rw [RunReport.toJson, PlanReport.members, Invocation.members_eq]
  rfl

theorem keys_fields (r : RunReport) : r.fields.map (·.1) = keys := rfl

/-- The data of a run shows its fields, and those of its plan among them. -/
theorem shows_fields (r : RunReport) : r.toJson.sorted.Shows r.fields := by
  rw [toJson_eq]
  refine Json.shows_of_fields ?_ ?_
  · rw [keys_fields]
    decide
  · refine List.forall_mem_append.2 ⟨?_, r.plan.canonical_fields⟩
    simp [Json.Canonical.str, Json.Canonical.int]

/-- Different runs have different data. -/
theorem eq_of_sorted_eq {r r' : RunReport} (h : r.toJson.sorted = r'.toJson.sorted) : r = r' := by
  have agree : Agree r.fields r'.fields := r.shows_fields.agree (h ▸ r'.shows_fields)
  have other : ∀ key ∈ ["status", "exit_code"],
      key ∉ PlanReport.keys ∧ key ∉ PlanReport.keys := by decide
  have plan_eq : r.plan = r'.plan := PlanReport.eq_of_agree (agree.behind rfl other)
  obtain ⟨plan, code, success⟩ := r
  obtain ⟨plan', code', success'⟩ := r'
  have code_eq : code = code' := by
    simpa [fields, Json.lookup_cons_ite] using agree "exit_code"
  have success_eq : success = success' := by
    have status_eq := agree "status"
    cases success <;> cases success' <;> simp_all [fields, Outcome.status]
  obtain rfl : plan = plan' := plan_eq
  rw [code_eq, success_eq]

end RunReport

namespace Override

def fields (o : Override) : List (String × Option Json) :=
  [("fragment", some (.str o.fragment)), ("args", some (.strings o.flags))]

theorem shows_fields (o : Override) : o.toJson.sorted.Shows o.fields := by
  have whole : (Json.obj (present o.fields)).sorted.Shows o.fields := by
    refine Json.shows_of_fields (by simp [fields]) ?_
    simp [fields, Json.canonical_strings, Json.Canonical.str]
  exact whole

theorem eq_of_sorted_eq {o o' : Override} (h : o.toJson.sorted = o'.toJson.sorted) : o = o' := by
  have agree : Agree o.fields o'.fields := o.shows_fields.agree (h ▸ o'.shows_fields)
  obtain ⟨fragment, flags⟩ := o
  obtain ⟨fragment', flags'⟩ := o'
  have fragment_eq : fragment = fragment' := by
    simpa [fields, Json.lookup_cons_ite] using agree "fragment"
  have flags_eq : Json.strings flags = Json.strings flags' := by
    simpa [fields, Json.lookup_cons_ite] using agree "args"
  rw [fragment_eq, Json.strings_injective flags_eq]

end Override

namespace OverridesReport

def fields (r : OverridesReport) : List (String × Option Json) :=
  [("builder_name", r.builder.map .str), ("entries", some (.arr (r.entries.map Override.toJson))),
   ("extra_args", r.flags.map .strings)]

theorem toJson_eq (r : OverridesReport) : r.toJson = .obj (present r.fields) := by
  obtain ⟨builder, entries, flags⟩ := r
  cases builder <;> cases flags <;> rfl

theorem sortedItems_injective {a b : List Override}
    (h : Json.sortedItems (a.map Override.toJson) = Json.sortedItems (b.map Override.toJson)) :
    a = b := by
  induction a generalizing b with
  | nil =>
    cases b with
    | nil => rfl
    | cons o' rest' => simp [Json.sortedItems] at h
  | cons o rest ih =>
    cases b with
    | nil => simp [Json.sortedItems] at h
    | cons o' rest' =>
      obtain ⟨first, others⟩ := List.cons.inj h
      rw [Override.eq_of_sorted_eq first, ih others]

/-- Different reports on overrides have different data. -/
theorem eq_of_sorted_eq {r r' : OverridesReport} (h : r.toJson.sorted = r'.toJson.sorted) :
    r = r' := by
  have shown : ∀ (r : OverridesReport) (key : String),
      (Json.sortedMembers (present r.fields) []).lookup key =
        (r.fields.lookup key).join.map Json.sorted :=
    fun r key => Json.lookup_sorted_present key (by simp [fields])
  rw [toJson_eq, toJson_eq] at h
  have agree : ∀ key, (r.fields.lookup key).join.map Json.sorted =
      (r'.fields.lookup key).join.map Json.sorted := by
    intro key
    rw [← shown, ← shown, Json.obj.inj h]
  obtain ⟨builder, entries, flags⟩ := r
  obtain ⟨builder', entries', flags'⟩ := r'
  have builder_eq : builder = builder' := by
    have whole : builder.map (Json.sorted ∘ .str) = builder'.map (Json.sorted ∘ .str) := by
      simpa [fields, Json.lookup_cons_ite] using agree "builder_name"
    exact (Option.map_inj_right fun _ _ eq => Json.str.inj eq).1 whole
  have entries_eq : entries = entries' := by
    have whole : (Json.arr (entries.map Override.toJson)).sorted =
        (Json.arr (entries'.map Override.toJson)).sorted := by
      simpa [fields, Json.lookup_cons_ite] using agree "entries"
    exact sortedItems_injective (Json.arr.inj whole)
  have flags_eq : flags = flags' := by
    have whole : flags.map (Json.sorted ∘ .strings) = flags'.map (Json.sorted ∘ .strings) := by
      simpa [fields, Json.lookup_cons_ite] using agree "extra_args"
    refine (Option.map_inj_right fun a b eq => Json.strings_injective ?_).1 whole
    rwa [Function.comp_apply, Function.comp_apply,
      Json.sorted_of_canonical (Json.canonical_strings a),
      Json.sorted_of_canonical (Json.canonical_strings b)] at eq
  rw [builder_eq, entries_eq, flags_eq]

end OverridesReport

end BenchJob
