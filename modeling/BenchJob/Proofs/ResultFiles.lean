import BenchJob.Proofs.Config.Layers
import BenchJob.Proofs.Path
import BenchJob.Proofs.Text.Integer

/-!
# The files for the results

The results of a job are kept in two files below its directory for results on the device. Their names
are made of the revision and, for one of them, of the time of the commit. The time is written without
an underscore, so it can be told from a revision that has some, and no two revisions or times share a
file.

A revision is put into the names as it is. Nothing but blanks is refused in it, so a slash in it makes
more than one component of a name, and the files need not be in the directory any more.

## Main definitions

- `Job.logName`, `Job.resultsName`: the names of the two files.

## Main statements

- `result_files_distinct`: different revisions and times have different files.
- `result_files_directlyIn_iff`: the revisions whose files are in the directory itself.
- `result_files_leave_directory`: a revision whose files are not even below the directory.
-/

namespace BenchJob

/-! ## Names -/

namespace Job

def logName (j : Job) : String := "bench_" ++ j.revision ++ "_data"

def resultsName (j : Job) (timestamp : Int) : String :=
  "microbench_" ++ j.revision ++ "_" ++ Text.Integer.text timestamp ++ ".json"

variable (j k : Job) (t t' : Int)

theorem logFile_eq_join : j.logFile = Path.join j.perfDir j.logName := rfl

theorem resultsFile_eq_join : j.resultsFile t = Path.join j.perfDir (j.resultsName t) := rfl

theorem toList_logName :
    j.logName.toList = "bench_".toList ++ (j.revision.toList ++ "_data".toList) := by
  simp [logName]

theorem toList_resultsName : (j.resultsName t).toList = "microbench_".toList ++
    (j.revision.toList ++ '_' :: (Text.Integer.chars t ++ ".json".toList)) := by
  simp [resultsName, Text.Integer.text]

theorem isAbsolute_logName : Path.isAbsolute j.logName = false := by
  simp [Path.isAbsolute, toList_logName]

theorem isAbsolute_resultsName : Path.isAbsolute (j.resultsName t) = false := by
  simp [Path.isAbsolute, toList_resultsName]

end Job

/-- What stands behind the last separator, and what stands in front of it, can be told apart. -/
theorem append_cons_inj_of_notMem_right {α : Type} {a a' b b' : List α} {sep : α} (h : sep ∉ b)
    (h' : sep ∉ b') : a ++ sep :: b = a' ++ sep :: b' ↔ a = a' ∧ b = b' := by
  constructor
  · intro same
    rcases List.append_eq_append_iff.1 same with ⟨between, rfl, rest⟩ | ⟨between, rfl, rest⟩
    · cases between with
      | nil => simpa using rest
      | cons c between =>
        obtain ⟨-, rfl⟩ := List.cons.inj rest
        simp at h
    · cases between with
      | nil => simpa using rest.symm
      | cons c between =>
        obtain ⟨-, rfl⟩ := List.cons.inj rest
        simp at h'
  · rintro ⟨rfl, rfl⟩
    rfl

namespace Job

variable {j k : Job} {t t' : Int}

theorem logName_inj : j.logName = k.logName ↔ j.revision = k.revision := by
  rw [← String.toList_inj, toList_logName, toList_logName, List.append_cancel_left_eq,
    List.append_cancel_right_eq, String.toList_inj]

/-- The name of the file for the results tells the revision and the time. -/
theorem resultsName_inj :
    j.resultsName t = k.resultsName t' ↔ j.revision = k.revision ∧ t = t' := by
  have behind : ∀ n : Int, '_' ∉ Text.Integer.chars n ++ ".json".toList := by
    intro n
    simp [Text.Integer.notMem_chars (c := '_') rfl (by decide) (by decide) n]
  rw [← String.toList_inj, toList_resultsName, toList_resultsName, List.append_cancel_left_eq,
    append_cons_inj_of_notMem_right (behind t) (behind t'), String.toList_inj,
    List.append_cancel_right_eq]
  exact and_congr_right fun _ => ⟨Text.Integer.chars_injective, fun same => by rw [same]⟩

theorem logName_ne_resultsName : j.logName ≠ k.resultsName t := by
  intro same
  have first := congrArg (fun name => name.toList.head?) same
  simp [toList_logName, toList_resultsName] at first

end Job

/-- Jobs that share a directory for results share a file for results only if they have the same
revision and the same time, and a file for timings only if they have the same revision. No file is
used for both. -/
theorem result_files_distinct (j k : Job) (shared : j.perfDir = k.perfDir) (t t' : Int) :
    (j.resultsFile t = k.resultsFile t' ↔ j.revision = k.revision ∧ t = t') ∧
    (j.logFile = k.logFile ↔ j.revision = k.revision) ∧
    j.logFile ≠ k.resultsFile t' := by
  simp only [Job.logFile_eq_join, Job.resultsFile_eq_join, shared, ne_eq,
    Path.join_inj (j.isAbsolute_resultsName t) (k.isAbsolute_resultsName t'),
    Path.join_inj j.isAbsolute_logName k.isAbsolute_logName,
    Path.join_inj j.isAbsolute_logName (k.isAbsolute_resultsName t')]
  exact ⟨Job.resultsName_inj, Job.logName_inj, Job.logName_ne_resultsName⟩

/-- A revision that ends in an underscore and a digit does not get the file of another time. -/
theorem sample_result_files_distinct :
    (Job.new "Perf" "r_1" "/res" "/perf").resultsFile 2 ≠
      (Job.new "Perf" "r" "/res" "/perf").resultsFile 12 := by
  obtain ⟨results, -, -⟩ :=
    result_files_distinct (Job.new "Perf" "r_1" "/res" "/perf") (Job.new "Perf" "r" "/res" "/perf")
      rfl 2 12
  intro same
  exact absurd (results.1 same).2 (by decide)

/-! ## Places -/

namespace Job

variable {j : Job} {t : Int}

theorem slash_mem_logName : '/' ∈ j.logName.toList ↔ '/' ∈ j.revision.toList := by
  simp [toList_logName]

theorem slash_mem_resultsName : '/' ∈ (j.resultsName t).toList ↔ '/' ∈ j.revision.toList := by
  have time := Text.Integer.notMem_chars (c := '/') rfl (by decide) (by decide) t
  simp [toList_resultsName, time]

variable (j : Job) (t : Int)

/-- Without a slash in the revision, the file for the timings is directly in the directory. -/
theorem place_logFile (named : j.perfDir ≠ "") (whole : '/' ∉ j.revision.toList) :
    Path.place j.logFile = Path.place j.perfDir ++ [j.logName] := by
  rw [logFile_eq_join]
  apply Path.place_join_of_head (c := 'b') named (mt slash_mem_logName.1 whole)
  · simp [toList_logName]
  · decide

/-- Without a slash in the revision, the file for the results is directly in the directory. -/
theorem place_resultsFile (named : j.perfDir ≠ "") (whole : '/' ∉ j.revision.toList) :
    Path.place (j.resultsFile t) = Path.place j.perfDir ++ [j.resultsName t] := by
  rw [resultsFile_eq_join]
  apply Path.place_join_of_head (c := 'm') named (mt slash_mem_resultsName.1 whole)
  · simp [toList_resultsName]
  · decide

end Job

/-- The files of a configuration that resolves are the directory, a slash between the two, and a name
with the revision as it was given. They are directly in the directory exactly if the revision has no
slash in it, and then they also lead to a place directly below the directory. -/
theorem result_files_directlyIn_iff {home : Option String} {c : Config} {s : Settings}
    (resolved : c.resolve home = .ok s) (named : s.job.perfDir ≠ "") (t : Int) :
    ∃ revision logName resultsName, c.revision = some revision ∧
      logName = "bench_" ++ revision ++ "_data" ∧
      resultsName = "microbench_" ++ revision ++ "_" ++ Text.Integer.text t ++ ".json" ∧
      s.job.logFile = Path.entry s.job.perfDir logName ∧
      s.job.resultsFile t = Path.entry s.job.perfDir resultsName ∧
      (Path.IsDirectlyIn s.job.perfDir s.job.logFile ↔ '/' ∉ revision.toList) ∧
      (Path.IsDirectlyIn s.job.perfDir (s.job.resultsFile t) ↔ '/' ∉ revision.toList) ∧
      ('/' ∉ revision.toList →
        Path.place s.job.logFile = Path.place s.job.perfDir ++ [logName] ∧
        Path.place (s.job.resultsFile t) = Path.place s.job.perfDir ++ [resultsName]) := by
  have given : c.revision = some s.job.revision := by
    obtain ⟨_, revision, _, -, given, -, -, -, rfl⟩ := Config.resolve_eq_ok_iff.1 resolved
    exact given
  have logFile : s.job.logFile = Path.entry s.job.perfDir s.job.logName :=
    Path.join_of_relative s.job.isAbsolute_logName named
  have resultsFile : s.job.resultsFile t = Path.entry s.job.perfDir (s.job.resultsName t) :=
    Path.join_of_relative (s.job.isAbsolute_resultsName t) named
  refine ⟨s.job.revision, s.job.logName, s.job.resultsName t, given, rfl, rfl, logFile, resultsFile,
    ?_, ?_, ?_⟩
  · rw [logFile, Path.isDirectlyIn_entry, Job.slash_mem_logName]
  · rw [resultsFile, Path.isDirectlyIn_entry, Job.slash_mem_resultsName]
  · intro whole
    exact ⟨s.job.place_logFile named whole, s.job.place_resultsFile t named whole⟩

def Sample.keeping (revision : String) : Config := { Config.empty with
  builder := some "Perf"
  revision := some revision
  resourceDir := some "/res"
  perfDataDir := some "/host/perf"
  devicePerfDir := some "/dev/perf" }

def Sample.keepingSettings (revision : String) : Settings :=
  (Sample.keeping revision).settings none "Perf" revision "/res"

theorem Sample.resolve_keeping (revision : String) (h : Text.isBlankText revision = false) :
    (keeping revision).resolve none = .ok (keepingSettings revision) :=
  Config.resolve_eq_ok_iff.2 ⟨"Perf", revision, "/res", rfl, rfl, rfl, by decide, h, rfl⟩

/-- The files of a plain revision are in the directory. -/
theorem sample_result_files_directlyIn_iff :
    Path.IsDirectlyIn "/dev/perf" (Sample.keepingSettings "r1").job.logFile ∧
      Path.place ((Sample.keepingSettings "r1").job.resultsFile 7) =
        Path.place "/dev/perf" ++ ["microbench_r1_7.json"] := by
  obtain ⟨revision, logName, resultsName, given, -, rfl, -, -, directly, -, places⟩ :=
    result_files_directlyIn_iff (Sample.resolve_keeping "r1" (by decide)) (by decide) 7
  obtain rfl : "r1" = revision := Option.some.inj given
  have whole : '/' ∉ "r1".toList := by decide
  exact ⟨directly.2 whole, (places whole).2⟩

/-- A revision with slashes in it resolves, and the files of its job are outside the directory. -/
theorem result_files_leave_directory :
    ∃ s, (Sample.keeping "r/../../x").resolve none = .ok s ∧
      s.job.perfDataDir = some "/host/perf" ∧ s.job.perfDir = "/dev/perf" ∧
      s.job.logFile = "/dev/perf/bench_r/../../x_data" ∧
      s.job.resultsFile 7 = "/dev/perf/microbench_r/../../x_7.json" ∧
      ¬ Path.IsDirectlyIn s.job.perfDir s.job.logFile ∧
      Path.place s.job.perfDir = ["/", "dev", "perf"] ∧
      Path.place s.job.logFile = ["/", "dev", "x_data"] ∧
      Path.place (s.job.resultsFile 7) = ["/", "dev", "x_7.json"] := by
  refine ⟨_, Sample.resolve_keeping "r/../../x" (by decide), rfl, rfl, rfl, rfl, ?_, rfl, rfl, rfl⟩
  have named : (Sample.keepingSettings "r/../../x").job.perfDir ≠ "" := by decide
  intro directly
  rw [Job.logFile_eq_join, Path.join_of_relative (Job.isAbsolute_logName _) named,
    Path.isDirectlyIn_entry, Job.slash_mem_logName] at directly
  exact directly (by decide)

end BenchJob
