import BenchJob.Proofs.Config.Document
import BenchJob.Proofs.Execution
import BenchJob.Proofs.Path

/-!
# One file counts

A configuration comes from the file that is named for it or else from the one in the home directory,
and from no other. What is found there decides: a named file has to be there, while the one in the
home directory may be missing; but whatever is there has to hold a configuration. So two machines on
which the same is found at this path come to the same configuration or to the same failure, whatever
other files they have.

Where nothing is found at a path that is named, the failure has the operating system's reason in its
details, and that tells something about the files on the way.

## Main definitions

- `Files.finding`: what is found at a path.
- `Files.obstacle?`: why nothing is found there.
- `Config.Loaded`: what becomes of it if it has to hold a configuration.

## Main statements

- `Config.loaded_load`: what is loaded, and what is refused.
- `Config.source_unambiguous`: what decides about a configuration.
-/

namespace BenchJob

open Json.Grammar
open BenchJob.Path (AtHome expandHome)
open Text (Bytes)

/-! ## What is found at a path -/

/-- What is found at a path: nothing, a directory, or a file with these bytes. -/
inductive Finding where
  | nothing
  | directory
  | file (bytes : Bytes)
  deriving Repr, DecidableEq

namespace Files

def finding (t : Files) (path : String) : Finding :=
  match t.walk path with
  | .error _ => .nothing
  | .ok (.directory _) => .directory
  | .ok (.file _ content) => .file content.bytes

/-- The reason why a path leads to nothing, if it does. -/
def obstacle? (t : Files) (path : String) : Option OsError :=
  match t.walk path with
  | .error e => some e
  | .ok _ => none

variable {t t' : Files} {path : String}

theorem finding_eq_file_iff {bytes : Bytes} :
    t.finding path = .file bytes ↔ t.Holds path bytes := by
  unfold finding Holds
  cases t.walk path with
  | error e => simp
  | ok target => cases target <;> simp [and_assoc]

theorem exists?_iff : t.exists? path = true ↔ t.finding path ≠ .nothing := by
  unfold exists? finding
  cases t.walk path with
  | error e => simp
  | ok target => cases target <;> simp

theorem obstacle?_eq_none_iff : t.obstacle? path = none ↔ t.finding path ≠ .nothing := by
  unfold obstacle? finding
  cases t.walk path with
  | error e => simp
  | ok target => cases target <;> simp

/-- Reading depends on what is found, and where nothing is found on the reason for it. -/
theorem readText_congr (found : t.finding path = t'.finding path)
    (reason : t.finding path = .nothing → t.obstacle? path = t'.obstacle? path) :
    t.readText path = t'.readText path := by
  unfold finding obstacle? at reason
  unfold finding at found
  unfold readText
  split at found <;> split at found <;> simp_all

theorem readText_of_obstacle {e : OsError} (reason : t.obstacle? path = some e) :
    t.readText path = .error e := by
  unfold obstacle? at reason
  unfold readText
  split at reason <;> simp_all

theorem readText_of_directory (found : t.finding path = .directory) :
    t.readText path = .error .isADirectory := by
  unfold finding at found
  unfold readText
  split at found <;> simp_all

theorem readText_of_notText {bytes : Bytes} (found : t.finding path = .file bytes)
    (notText : ∀ text, bytes ≠ Text.encode text) : t.readText path = .error .notText := by
  obtain ⟨name, content, walked, rfl⟩ := finding_eq_file_iff.1 found
  have undecoded : Text.decode? content.bytes = none := by
    refine Option.eq_none_iff_forall_ne_some.2 fun text decoded => ?_
    exact notText text (Text.decode?_eq_some_iff.1 decoded)
  simp only [readText, walked, undecoded]

end Files

/-! ## Loading what is found -/

namespace Config

/-- What becomes of what is found at a path if it has to hold a configuration. -/
inductive Loaded (path : String) : Finding → Except Failure Config → Prop where
  | nothing (reason : OsError) :
      Loaded path .nothing (.error (.io reason.text (some ("read " ++ path))))
  | directory :
      Loaded path .directory (.error (.io OsError.isADirectory.text (some ("read " ++ path))))
  | notText {bytes : Bytes} (notText : ∀ text, bytes ≠ Text.encode text) :
      Loaded path (.file bytes) (.error (.io OsError.notText.text (some ("read " ++ path))))
  | malformed {text : String} (problem : String) (other : ¬ ∃ v, Document text.toList v ∧ Stored v) :
      Loaded path (.file (Text.encode text)) (.error ⟨.configInvalidJson,
        "Invalid JSON in configuration", .obj [("error", .str problem), ("path", .str path)], []⟩)
  | stored {text : String} {v : Json.Reading} {c : Config} (written : Document text.toList v)
      (stored : c.StoredAs v) : Loaded path (.file (Text.encode text)) (.ok c)

variable {w w' : World} {path : String}

/-- What cannot be read is refused as a file. -/
theorem Loaded.code_of_unreadable {found : Finding} {r : Except Failure Config}
    (h : Loaded path found r) (unreadable : ∀ text, found ≠ .file (Text.encode text)) :
    ∃ f, r = .error f ∧ f.code = .ioError := by
  cases h with
  | nothing | directory | notText => exact ⟨_, rfl, rfl⟩
  | malformed | stored => exact absurd rfl (unreadable _)

theorem load_congr (found : w.files.finding path = w'.files.finding path)
    (reason : w.files.finding path = .nothing →
      w.files.obstacle? path = w'.files.obstacle? path) : load w path = load w' path := by
  simp only [load, World.readText, Files.readText_congr found reason]

theorem load_of_unread {e : OsError} (unread : w.files.readText path = .error e) :
    load w path = .error (.io e.text (some ("read " ++ path))) := by
  simp only [load, World.readText, unread]

theorem load_of_obstacle {e : OsError} (reason : w.files.obstacle? path = some e) :
    load w path = .error (.io e.text (some ("read " ++ path))) :=
  load_of_unread (Files.readText_of_obstacle reason)

theorem loaded_load (w : World) (path : String) :
    Loaded path (w.files.finding path) (load w path) := by
  cases found : w.files.finding path with
  | nothing =>
    cases reason : w.files.obstacle? path with
    | none => exact absurd found (Files.obstacle?_eq_none_iff.1 reason)
    | some e =>
      rw [load_of_obstacle reason]
      exact .nothing e
  | directory =>
    rw [load_of_unread (Files.readText_of_directory found)]
    exact .directory
  | file bytes =>
    by_cases text : ∃ text, bytes = Text.encode text
    · obtain ⟨text, rfl⟩ := text
      have held := Files.finding_eq_file_iff.1 found
      cases read : ofText? text with
      | ok c =>
        obtain ⟨v, written, stored⟩ := ofText?_eq_ok_iff.1 read
        rw [load_of_ok held read]
        exact .stored written stored
      | error fault =>
        rw [load_of_fault held read]
        refine .malformed _ ?_
        rintro ⟨v, written, stored⟩
        obtain ⟨c, stored⟩ := exists_storedAs stored
        rw [ofText?_eq_ok_iff.2 ⟨v, written, stored⟩] at read
        cases read
    · have notText : ∀ text, bytes ≠ Text.encode text := fun t same => text ⟨t, same⟩
      rw [load_of_unread (Files.readText_of_notText found notText)]
      exact .notText notText

/-! ## The file that counts -/

/-- A file that is named is loaded, and nothing is told about it. -/
theorem loadOrDefault_named (w : World) (path : String) :
    (loadOrDefault w (some path)).Leaves (load w (expandHome w.home path)) .empty :=
  .ofExcept _

theorem loadOrDefault_homeless (unset : w.home = none) :
    (loadOrDefault w none).Leaves (.ok empty) .empty := by
  unfold loadOrDefault
  rw [unset]
  exact .pure _

section

variable {home : String} (set : w.home = some home)

include set

theorem loadOrDefault_missing (missing : w.files.finding (defaultPath home) = .nothing) :
    (loadOrDefault w none).Leaves (.ok empty) .empty := by
  have absent : ¬ w.files.exists? (defaultPath home) = true := by simp [Files.exists?_iff, missing]
  unfold loadOrDefault
  rw [set]
  simp only [if_neg absent]
  exact .pure _

theorem loadOrDefault_present (present : w.files.finding (defaultPath home) ≠ .nothing) :
    (loadOrDefault w none).Leaves (load w (defaultPath home))
      (w.told [.usingConfig (defaultPath home)]) := by
  unfold loadOrDefault
  rw [set]
  simp only [if_pos (Files.exists?_iff.2 present)]
  rw [← Log.append_empty (w.told _)]
  exact (w.tell_leaves _).bind_ok (.ofExcept _)

end

/-- Without a name, the home directory and what is found at the default path decide. -/
theorem result_loadOrDefault_congr (sameHome : w.home = w'.home)
    (found : ∀ home, w.home = some home →
      w.files.finding (defaultPath home) = w'.files.finding (defaultPath home)) :
    (loadOrDefault w none).result = (loadOrDefault w' none).result := by
  cases set : w.home with
  | none =>
    have unset' : w'.home = none := sameHome ▸ set
    rw [(loadOrDefault_homeless set).result_eq, (loadOrDefault_homeless unset').result_eq]
  | some home =>
    have set' : w'.home = some home := sameHome ▸ set
    have same := found home set
    by_cases missing : w.files.finding (defaultPath home) = .nothing
    · have missing' : w'.files.finding (defaultPath home) = .nothing := same ▸ missing
      rw [(loadOrDefault_missing set missing).result_eq,
        (loadOrDefault_missing set' missing').result_eq]
    · have present' : w'.files.finding (defaultPath home) ≠ .nothing := same ▸ missing
      rw [(loadOrDefault_present set missing).result_eq,
        (loadOrDefault_present set' present').result_eq]
      exact load_congr same fun nothing => absurd nothing missing

end Config

/-- Overrides are listed alike on all machines with a terminal, and on all machines without one. -/
theorem execute_overrides_congr {w w' : World} (terminal : w.terminal = w'.terminal) (sink : Sink)
    (builder : Option String) :
    execute w sink (.overrides builder) = execute w' sink (.overrides builder) := by
  have tells : w.tell .working = w'.tell .working := by simp only [World.tell, terminal]
  have performed : (Command.overrides builder).perform w = (Command.overrides builder).perform w' := by
    unfold Command.perform
    rw [tells]
    rfl
  rw [execute, execute, performed]

namespace Config

/-- A file that is named has to hold a configuration. What is found at its path decides, and where
nothing is found the operating system's reason for it; the home directory matters only for a tilde at
the start of the path, and the file in the home directory never does. If no file is named, the home
directory and what is found at the path of the file in it decide: without either everything is left
open, and whatever is found there is loaded like a file that is named. Overrides are listed without
any of this. -/
theorem source_unambiguous :
    (∀ (w w' : World) (path : String), (AtHome path → w.home = w'.home) →
      w.files.finding (expandHome w.home path) = w'.files.finding (expandHome w.home path) →
      (w.files.finding (expandHome w.home path) = .nothing →
        w.files.obstacle? (expandHome w.home path) =
          w'.files.obstacle? (expandHome w.home path)) →
      (loadOrDefault w (some path)).result = (loadOrDefault w' (some path)).result) ∧
    (∀ (w : World) (path : String),
      (loadOrDefault w (some path)).Leaves (load w (expandHome w.home path)) .empty ∧
      ((∀ text, w.files.finding (expandHome w.home path) ≠ .file (Text.encode text)) →
        ∃ f, (loadOrDefault w (some path)).result = .error f ∧
          f.code.text = "internal.io_error") ∧
      ∀ reason, w.files.obstacle? (expandHome w.home path) = some reason →
        (loadOrDefault w (some path)).result =
          .error (.io reason.text (some ("read " ++ expandHome w.home path)))) ∧
    (∀ w w' : World, w.home = w'.home →
      (∀ home path, w.home = some home →
        path = Path.join (Path.join (Path.join home ".config") "bench-step") "config.json" →
        w.files.finding path = w'.files.finding path) →
      (loadOrDefault w none).result = (loadOrDefault w' none).result) ∧
    (∀ w : World, w.home = none → (loadOrDefault w none).result = .ok empty) ∧
    (∀ (w : World) (home path : String), w.home = some home →
      path = Path.join (Path.join (Path.join home ".config") "bench-step") "config.json" →
      (w.files.finding path = .nothing → (loadOrDefault w none).result = .ok empty) ∧
      (w.files.finding path ≠ .nothing → (loadOrDefault w none).result = load w path)) ∧
    (∀ (w : World) (path : String), Loaded path (w.files.finding path) (load w path)) ∧
    ∀ (w w' : World) (sink : Sink) (builder : Option String), w.terminal = w'.terminal →
      execute w sink (.overrides builder) = execute w' sink (.overrides builder) := by
  refine ⟨?_, ?_, ?_, ?_, ?_, loaded_load,
    fun w w' sink builder same => execute_overrides_congr same sink builder⟩
  · intro w w' path home found reason
    have sameFile : expandHome w'.home path = expandHome w.home path := by
      by_cases atHome : AtHome path
      · rw [home atHome]
      · rw [Path.expandHome_of_not_atHome _ atHome, Path.expandHome_of_not_atHome _ atHome]
    rw [(loadOrDefault_named w path).result_eq, (loadOrDefault_named w' path).result_eq, sameFile]
    exact load_congr found reason
  · intro w path
    refine ⟨loadOrDefault_named w path, ?_, ?_⟩
    · intro unreadable
      rw [(loadOrDefault_named w path).result_eq]
      obtain ⟨f, refused, code⟩ := (loaded_load w _).code_of_unreadable unreadable
      exact ⟨f, refused, by rw [code]; rfl⟩
    · intro e reason
      rw [(loadOrDefault_named w path).result_eq]
      exact load_of_obstacle reason
  · intro w w' sameHome found
    exact result_loadOrDefault_congr sameHome fun home set => found home _ set rfl
  · intro w unset
    exact (loadOrDefault_homeless unset).result_eq
  · rintro w home _ set rfl
    exact ⟨fun missing => (loadOrDefault_missing set missing).result_eq,
      fun present => (loadOrDefault_present set present).result_eq⟩

end Config

namespace Sample

def bare : World := ⟨some "/home/ci", ⟨[], []⟩, false⟩

/-- A machine with a file that stands in the way of `a/b`, and with a directory at the default path. -/
def blocked : World :=
  ⟨some "/home/ci", ⟨[("a", .plain [])], ["/home/ci/.config/bench-step/config.json"]⟩, false⟩

theorem obstacle_bare : bare.files.obstacle? "a/b" = some .noSuchFile := rfl

theorem obstacle_blocked : blocked.files.obstacle? "a/b" = some .notADirectory := rfl

end Sample

namespace Config

/-- The directory at the default path is refused when it counts, and it does not count for a path to
nothing that is named. -/
theorem sample_source_unambiguous :
    Loaded (defaultPath "/home/ci") .directory (loadOrDefault Sample.blocked none).result ∧
    (loadOrDefault Sample.blocked (some "a/b")).result =
      .error (.io OsError.notADirectory.text (some "read a/b")) := by
  obtain ⟨-, named, -, -, default, loaded, -⟩ := source_unambiguous
  have directory : Sample.blocked.files.finding (defaultPath "/home/ci") = .directory := rfl
  constructor
  · have result := (default Sample.blocked "/home/ci" (defaultPath "/home/ci") rfl rfl).2
      (by simp [directory])
    rw [result, ← directory]
    exact loaded _ _
  · exact (named Sample.blocked "a/b").2.2 .notADirectory Sample.obstacle_blocked

/-- The result is not the same on all machines with the same found at a path: nothing is found for
different reasons, and these are told. -/
theorem reason_of_absence_shows :
    ¬ ∀ (w w' : World) (path : String), (AtHome path → w.home = w'.home) →
      w.files.finding (expandHome w.home path) = w'.files.finding (expandHome w.home path) →
      (loadOrDefault w (some path)).result = (loadOrDefault w' (some path)).result := by
  intro same
  have bare : (loadOrDefault Sample.bare (some "a/b")).result = _ :=
    (loadOrDefault_named _ _).result_eq.trans (load_of_obstacle Sample.obstacle_bare)
  have blocked : (loadOrDefault Sample.blocked (some "a/b")).result = _ :=
    (loadOrDefault_named _ _).result_eq.trans (load_of_obstacle Sample.obstacle_blocked)
  have results := same Sample.bare Sample.blocked "a/b" (fun _ => rfl) rfl
  rw [bare, blocked] at results
  simp [Failure.io, Failure.errorDetails, OsError.text] at results

end Config

end BenchJob
