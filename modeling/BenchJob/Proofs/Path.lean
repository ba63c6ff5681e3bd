import BenchJob.World.Path

/-!
# Joined paths

A name that is no path from the root stands below a directory behind a slash, which is added unless
the directory ends in one. A walk along the joined path first goes to the directory and then along
the components of the name, so a name without a slash leads to a place directly below the directory,
and any other name goes on from there to wherever its components lead.

A tilde stands for the home directory if it is the first component of a path. Everywhere else it is a
character like any other.

## Main definitions

- `Path.entry`: the path of a name below a directory.
- `Path.IsDirectlyIn`: a path is that of a single component below a directory.
- `Path.AtHome`, `Path.Expands`: paths in the home directory, and what they stand for.

## Main statements

- `Path.join_of_relative`: a joined path is the path of an entry.
- `Path.exists_toList_entry`: an entry as a text.
- `Path.slash_mem_join`: the joined paths with a slash in them.
- `Path.join_inj`: different names below one directory have different paths.
- `Path.place_entry`: where an entry leads.
- `Path.place_join_of_head`: the names that lead to a place directly below the directory.
- `Path.expands_expandHome`: what a path in the home directory is replaced by.
-/

namespace BenchJob.Path

/-- The path of a name below a directory: a slash goes between the two, unless the directory ends in
one. -/
def entry (dir name : String) : String := (if endsInSlash dir then dir else dir ++ "/") ++ name

/-- The path is that of a name without a slash below the directory. -/
def IsDirectlyIn (dir path : String) : Prop := ∃ name, '/' ∉ name.toList ∧ path = entry dir name

variable {dir name other : String}

/-! ## Texts -/

theorem join_of_absolute (absolute : isAbsolute name = true) : join dir name = name := by
  simp [join, absolute]

@[simp] theorem join_empty (name : String) : join "" name = name := by
  simp [join]

/-- A name that is no path from the root is joined to a directory as an entry of it. -/
theorem join_of_relative (relative : isAbsolute name = false) (nonempty : dir ≠ "") :
    join dir name = entry dir name := by
  unfold join entry
  cases endsInSlash dir <;> simp [relative, nonempty]

/-- An entry is its name behind a slash. What stands in front of the slash is the directory, without
the slash at its end if it has one. -/
theorem exists_toList_entry (dir name : String) :
    ∃ front, (entry dir name).toList = front ++ '/' :: name.toList ∧
      (dir.toList = front ∨ dir.toList = front ++ ['/']) := by
  unfold entry
  split
  · rename_i slash
    obtain ⟨front, chars⟩ := List.getLast?_eq_some_iff.1 (beq_iff_eq.1 slash)
    exact ⟨front, by simp [chars], .inr chars⟩
  · exact ⟨dir.toList, by simp, .inl rfl⟩

/-- The name stands at the end of a joined path. -/
theorem suffix_join (dir name : String) : name.toList <:+ (join dir name).toList := by
  cases absolute : isAbsolute name with
  | true => simp [join_of_absolute absolute]
  | false =>
    by_cases empty : dir = ""
    · simp [empty]
    · obtain ⟨front, chars, -⟩ := exists_toList_entry dir name
      rw [join_of_relative absolute empty, chars]
      exact (List.suffix_cons '/' _).trans (List.suffix_append front _)

theorem slash_mem_of_isAbsolute (h : isAbsolute name = true) : '/' ∈ name.toList :=
  List.mem_of_head? (beq_iff_eq.1 h)

/-- A joined path has a slash in it unless there is nothing in front of a name without one. -/
theorem slash_mem_join : '/' ∈ (join dir name).toList ↔ dir ≠ "" ∨ '/' ∈ name.toList := by
  cases absolute : isAbsolute name with
  | true => simp [join_of_absolute absolute, slash_mem_of_isAbsolute absolute]
  | false =>
    by_cases empty : dir = ""
    · simp [empty]
    · obtain ⟨front, chars, -⟩ := exists_toList_entry dir name
      simp [join_of_relative absolute empty, chars, empty]

theorem join_eq_empty_iff : join dir name = "" ↔ dir = "" ∧ name = "" := by
  constructor
  · intro h
    have noSlash : '/' ∉ (join dir name).toList := by simp [h]
    obtain ⟨rfl, -⟩ : dir = "" ∧ '/' ∉ name.toList := by simpa [slash_mem_join] using noSlash
    rw [join_empty] at h
    exact ⟨rfl, h⟩
  · rintro ⟨rfl, rfl⟩
    exact join_empty ""

theorem entry_inj : entry dir name = entry dir other ↔ name = other := by
  unfold entry
  exact String.append_right_inj _

theorem isDirectlyIn_entry : IsDirectlyIn dir (entry dir name) ↔ '/' ∉ name.toList := by
  constructor
  · rintro ⟨single, noSlash, same⟩
    rwa [entry_inj.1 same]
  · intro noSlash
    exact ⟨name, noSlash, rfl⟩

/-- Different names below one directory have different paths, unless one of them is a path from the
root. -/
theorem join_inj (relative : isAbsolute name = false) (relative' : isAbsolute other = false) :
    join dir name = join dir other ↔ name = other := by
  by_cases empty : dir = ""
  · simp [empty]
  · rw [join_of_relative relative empty, join_of_relative relative' empty, entry_inj]

/-! ## Components -/

theorem segments_ne_nil (s : List Char) : segments s ≠ [] := by
  cases s with
  | nil => simp [segments]
  | cons c rest =>
    unfold segments
    repeat' split
    all_goals simp

theorem segments_append_slash (s t : List Char) :
    segments (s ++ '/' :: t) = segments s ++ segments t := by
  induction s with
  | nil => simp [segments]
  | cons c rest ih =>
    obtain ⟨first, others, pieces⟩ := List.exists_cons_of_ne_nil (segments_ne_nil rest)
    rw [List.cons_append, segments, segments, ih, pieces]
    split <;> rfl

theorem segments_of_slash_notMem {s : List Char} (h : '/' ∉ s) : segments s = [s] := by
  induction s with
  | nil => rfl
  | cons c rest ih =>
    obtain ⟨other, behind⟩ := List.ne_and_not_mem_of_not_mem_cons h
    rw [segments, if_neg (Ne.symm other), ih behind]

/-- A name without a slash is one component. -/
theorem components_of_slash_notMem (nonempty : name ≠ "") (noSlash : '/' ∉ name.toList) :
    components name = [name] := by
  simp [components, segments_of_slash_notMem noSlash, nonempty]

theorem components_entry : components (entry dir name) = components dir ++ components name := by
  obtain ⟨front, chars, same | slash⟩ := exists_toList_entry dir name
  · simp [components, chars, same, segments_append_slash]
  · -- Behind the slash at its end, the directory has one more piece, which is empty.
    simp [components, chars, slash, segments_append_slash, segments]

/-! ## Places -/

theorem start_entry (nonempty : dir ≠ "") : start (entry dir name) = start dir := by
  have written : dir.toList ≠ [] := by simpa using nonempty
  obtain ⟨c, rest, first⟩ := List.exists_cons_of_ne_nil written
  have head : (entry dir name).toList.head? = dir.toList.head? := by
    obtain ⟨front, chars, same | slash⟩ := exists_toList_entry dir name
    · rw [chars, ← same, first]
      rfl
    · simp [chars, slash]
  rw [start, start, isAbsolute, isAbsolute, head]

/-- An entry leads to where the components of its name lead from the directory. -/
theorem place_entry (nonempty : dir ≠ "") :
    place (entry dir name) = (components name).foldl next (place dir) := by
  rw [place, components_entry, start_entry nonempty, List.foldl_append]
  rfl

/-- A single component that stands for itself leads to a place directly below the directory. -/
theorem place_entry_of_component (nonempty : dir ≠ "") (noSlash : '/' ∉ name.toList)
    (proper : name ∉ ["", ".", ".."]) : place (entry dir name) = place dir ++ [name] := by
  simp only [List.mem_cons, List.not_mem_nil, or_false, not_or] at proper
  rw [place_entry nonempty, components_of_slash_notMem proper.1 noSlash]
  simp [next, proper]

/-- A name without a slash that does not start with a dot leads to a place directly below the
directory it is joined to. -/
theorem place_join_of_head {c : Char} (nonempty : dir ≠ "") (noSlash : '/' ∉ name.toList)
    (head : name.toList.head? = some c) (noDot : c ≠ '.') :
    place (join dir name) = place dir ++ [name] := by
  have relative : isAbsolute name = false := Bool.eq_false_iff.2 (mt slash_mem_of_isAbsolute noSlash)
  rw [join_of_relative relative nonempty]
  apply place_entry_of_component nonempty noSlash
  intro special
  have known : name = "" ∨ name = "." ∨ name = ".." := by simpa using special
  rcases known with rfl | rfl | rfl
  · cases head
  · exact noDot (Option.some.inj head).symm
  · exact noDot (Option.some.inj head).symm

/-! ## The home directory -/

def AtHome (path : String) : Prop := path = "~" ∨ ∃ rest, path = "~/" ++ rest

/-- What a path stands for on a machine with this home directory. -/
inductive Expands (home : String) : String → String → Prop where
  | home : Expands home "~" home
  | below (rest : String) : Expands home ("~/" ++ rest) (home ++ "/" ++ rest)
  | elsewhere {path : String} (other : ¬ AtHome path) : Expands home path path

variable {path : String}

theorem startsAtHome_iff : startsAtHome path = true ↔ AtHome path := by
  unfold startsAtHome AtHome
  split
  · rename_i tilde
    have same : path = "~" := by rw [← String.toList_inj, tilde]; rfl
    exact iff_of_true rfl (.inl same)
  · rename_i rest below
    refine iff_of_true rfl (.inr ⟨String.ofList rest, ?_⟩)
    rw [← String.toList_inj, below]
    simp
  · rename_i notTilde notBelow
    refine iff_of_false Bool.false_ne_true ?_
    rintro (rfl | ⟨rest, rfl⟩)
    · exact notTilde rfl
    · exact notBelow rest.toList (by simp)

/-- Away from home, nothing is replaced. -/
theorem expandHome_of_not_atHome (home : Option String) (other : ¬ AtHome path) :
    expandHome home path = path := by
  have elsewhere : startsAtHome path = false := Bool.eq_false_iff.2 (mt startsAtHome_iff.1 other)
  cases home <;> simp [expandHome, elsewhere]

/-- With a home directory, a path is replaced by what it stands for. -/
theorem expands_expandHome {home : String} (known : home ≠ "") (path : String) :
    Expands home path (expandHome (some home) path) := by
  by_cases atHome : AtHome path
  · have replaced : expandHome (some home) path = home ++ String.ofList path.toList.tail := by
      simp [expandHome, startsAtHome_iff.2 atHome, known]
    rcases atHome with rfl | ⟨rest, rfl⟩
    · have tilde : expandHome (some home) "~" = home := by simp [replaced]
      rw [tilde]
      exact .home
    · have below : expandHome (some home) ("~/" ++ rest) = home ++ "/" ++ rest := by
        rw [replaced, String.append_assoc]
        congr 1
        rw [← String.toList_inj]
        simp
      rw [below]
      exact .below rest
  · rw [expandHome_of_not_atHome _ atHome]
    exact .elsewhere atHome

end BenchJob.Path
