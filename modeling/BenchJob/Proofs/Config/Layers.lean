import BenchJob.Execution
import BenchJob.Proofs.Trace

/-!
# The layers of a command line

The settings of a command line come from two layers, the config file and the flags on top of it. The
layers are found without starting a program, and where they do not resolve nothing has been started
either.

## Main definitions

- `StepOptions.layers`: both layers of a command line, merged.
- `StepOptions.sourceNotices`: the notice on the config file of a command line.

## Main statements

- `Config.get_merge`: a field of merged layers.
- `Config.resolve_eq_ok_iff`: when a configuration resolves, and to what.
- `settingsOf_leaves`, `result_settingsOf`: finding the settings of a command line.
-/

namespace BenchJob

namespace Config

/-- The upper layer counts where it sets a field. -/
theorem get_merge (c upper : Config) (field : Field) :
    (c.merge upper).get field = (upper.get field).or (c.get field) := by
  cases field <;> rfl

theorem benchArgs_merge (c upper : Config) :
    (c.merge upper).benchArgs = c.benchArgs ++ upper.benchArgs := rfl

/-- A layer is known by its fields and its arguments. -/
theorem eq_of_get {c d : Config} (texts : ∀ field, c.get field = d.get field)
    (args : c.benchArgs = d.benchArgs) : c = d := by
  cases c
  cases d
  simp only [mk.injEq]
  exact ⟨texts .builder, texts .revision, texts .perfDataDir, texts .resourceDir,
    texts .devicePerfDir, texts .outDir, texts .configuration, texts .repoDir, args⟩

theorem checkText_eq_ok_iff {field : Field} {value text : String} :
    checkText field value = .ok text ↔ Text.isBlankText value = false ∧ text = value := by
  unfold checkText
  cases Text.isBlankText value <;> simp [eq_comm]

theorem checkText_eq_error_iff {field : Field} {value : String} {f : Failure} :
    checkText field value = .error f ↔ Text.isBlankText value = true ∧ f = blank field value := by
  unfold checkText
  cases Text.isBlankText value <;> simp [eq_comm]

/-- A configuration resolves exactly if it has a builder and a revision that are not blank and a
resource directory. -/
theorem resolve_eq_ok_iff {home : Option String} {c : Config} {s : Settings} :
    c.resolve home = .ok s ↔ ∃ builder revision resourceDir,
      c.builder = some builder ∧ c.revision = some revision ∧ c.resourceDir = some resourceDir ∧
      Text.isBlankText builder = false ∧ Text.isBlankText revision = false ∧
      s = c.settings home builder revision resourceDir := by
  constructor
  · intro h
    unfold resolve at h
    split at h
    · rename_i builder revision resourceDir hb hr hd
      obtain ⟨_, builderChecked, rest⟩ := ok_of_bind_eq_ok h
      obtain ⟨_, revisionChecked, same⟩ := ok_of_bind_eq_ok rest
      obtain ⟨hb', rfl⟩ := checkText_eq_ok_iff.1 builderChecked
      obtain ⟨hr', rfl⟩ := checkText_eq_ok_iff.1 revisionChecked
      exact ⟨_, _, _, hb, hr, hd, hb', hr', (Except.ok.inj same).symm⟩
    · cases h
  · rintro ⟨builder, revision, resourceDir, hb, hr, hd, hb', hr', rfl⟩
    have builderKnown : checkText .builder builder = .ok builder :=
      checkText_eq_ok_iff.2 ⟨hb', rfl⟩
    have revisionKnown : checkText .revision revision = .ok revision :=
      checkText_eq_ok_iff.2 ⟨hr', rfl⟩
    simp only [resolve, hb, hr, hd, builderKnown, revisionKnown]
    rfl

theorem outDir_of_resolve {home : Option String} {c : Config} {s : Settings}
    (h : c.resolve home = .ok s) : s.outDir = c.outDir.map (Path.expandHome home) := by
  obtain ⟨_, _, _, -, -, -, -, -, rfl⟩ := resolve_eq_ok_iff.1 h
  rfl

/-- Results are kept exactly if the directory for them is given and not empty. -/
theorem keptIn_eq_none_iff {home : Option String} {c : Config} :
    c.keptIn home = none ↔ c.perfDataDir = none ∨ c.perfDataDir = some "" := by
  cases h : c.perfDataDir with
  | none => simp [keptIn, h]
  | some dir => simp [keptIn, h, Option.filter]

theorem keptIn_eq_some_iff {home : Option String} {c : Config} {dir : String} :
    c.keptIn home = some dir ↔
      ∃ given, c.perfDataDir = some given ∧ given ≠ "" ∧ dir = Path.expandHome home given := by
  cases h : c.perfDataDir with
  | none => simp [keptIn, h]
  | some given =>
    by_cases empty : given = ""
    · simp [keptIn, h, empty, Option.filter]
    · have kept : c.keptIn home = some (Path.expandHome home given) := by
        simp [keptIn, h, empty, Option.filter]
      simpa [kept, empty] using eq_comm

theorem keptIn_ne_none_iff {home : Option String} {c : Config} :
    c.keptIn home ≠ none ↔ ∃ given, c.perfDataDir = some given ∧ given ≠ "" := by
  simp only [Option.ne_none_iff_exists', keptIn_eq_some_iff]
  constructor
  · rintro ⟨_, given, set, nonempty, -⟩
    exact ⟨given, set, nonempty⟩
  · rintro ⟨given, set, nonempty⟩
    exact ⟨_, given, set, nonempty, rfl⟩

/-- The directory on the device is the one on the host unless another one is given. -/
theorem devicePerfDirectory_of_kept {home : Option String} {c : Config} {dir : String}
    (kept : c.keptIn home = some dir) :
    c.devicePerfDirectory home = c.devicePerfDir.getD dir := by
  unfold devicePerfDirectory
  cases c.devicePerfDir with
  | none => simp [kept]
  | some given => rfl

/-! ## Where the lower layer comes from -/

/-- The notice on the config file: the default one is named if it counts. -/
def sourceNotices (w : World) : Option String → List Notice
  | some _ => []
  | none =>
    match w.home with
    | none => []
    | some home =>
      if w.files.exists? (defaultPath home) then [.usingConfig (defaultPath home)] else []

/-- Looking for the config file starts no program and tells at most one notice. -/
theorem loadOrDefault_leaves (w : World) (path : Option String) :
    (loadOrDefault w path).Leaves (loadOrDefault w path).result
      (w.told (sourceNotices w path)) := by
  suffices ∃ r : Except Failure Config,
      (loadOrDefault w path).Leaves r (w.told (sourceNotices w path)) by
    obtain ⟨r, h⟩ := this
    exact h.result_eq.symm ▸ h
  unfold loadOrDefault sourceNotices
  cases path with
  | some path => exact ⟨_, by rw [w.told_nil]; exact .ofExcept _⟩
  | none =>
    cases w.home with
    | none => exact ⟨_, by rw [w.told_nil]; exact .pure _⟩
    | some home =>
      by_cases found : w.files.exists? (defaultPath home) = true
      · simp only [if_pos found]
        have told := (w.tell_leaves (.usingConfig (defaultPath home))).bind_ok
          (f := fun _ => liftM (load w (defaultPath home))) (.ofExcept _)
        rw [Log.append_empty] at told
        exact ⟨_, told⟩
      · simp only [if_neg found]
        exact ⟨_, by rw [w.told_nil]; exact .pure _⟩

end Config

/-! ## Settings -/

/-- Both layers of a command line: its config file, or the default one, below its flags. -/
def StepOptions.layers (w : World) (o : StepOptions) : Except Failure Config :=
  (Config.loadOrDefault w (o.configFile.map Text.decodeLossy)).result.map (·.merge o.flags)

def StepOptions.sourceNotices (w : World) (o : StepOptions) : List Notice :=
  Config.sourceNotices w (o.configFile.map Text.decodeLossy)

/-- The settings of a command line are those of its merged layers. -/
theorem settingsOf_leaves (w : World) (o : StepOptions) :
    (settingsOf w o).Leaves ((o.layers w).bind (·.resolve w.home)) (w.told (o.sourceNotices w)) := by
  have source := Config.loadOrDefault_leaves w (o.configFile.map Text.decodeLossy)
  unfold settingsOf StepOptions.layers StepOptions.sourceNotices
  cases h : (Config.loadOrDefault w (o.configFile.map Text.decodeLossy)).result with
  | error f =>
    rw [h] at source
    exact source.bind_error
  | ok file =>
    rw [h] at source
    rw [← Log.append_empty (w.told _)]
    exact source.bind_ok (.ofExcept _)

theorem result_settingsOf (w : World) (o : StepOptions) :
    (settingsOf w o).result = (o.layers w).bind (·.resolve w.home) :=
  (settingsOf_leaves w o).result_eq

/-- The settings of a command line are those of its layers. -/
theorem result_settingsOf_eq_ok_iff {w : World} {o : StepOptions} {s : Settings} :
    (settingsOf w o).result = .ok s ↔ ∃ c, o.layers w = .ok c ∧ c.resolve w.home = .ok s := by
  rw [result_settingsOf]
  cases o.layers w <;> simp [Except.bind]

/-- Finding the settings leaves nothing behind but the notice on the config file. -/
theorem trace_settingsOf (w : World) (o : StepOptions) :
    (settingsOf w o).trace = w.told (o.sourceNotices w) :=
  (settingsOf_leaves w o).trace_eq

theorem attempts_trace_settingsOf (w : World) (o : StepOptions) :
    (settingsOf w o).trace.attempts = [] := by
  rw [trace_settingsOf, World.attempts_told]

end BenchJob
