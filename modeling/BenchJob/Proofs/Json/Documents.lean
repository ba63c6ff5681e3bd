import BenchJob.Proofs.Json.Numerals
import BenchJob.Proofs.Json.Scanning

/-!
# The reader and the grammar

The reader of any JSON text reads exactly the documents of the grammar, each as the value that it is
there. So the grammar gives a text at most one value.

The reader has taken part of a text when it meets a value, and arrays and objects are open around
its place. What these still ask of the text is a relation of its own: each of them takes the items
or the members behind the value and hands what it has become to the one around it. A step of the
reader keeps what is asked of the text that is left, in one direction by induction on the run of the
reader and in the other by induction on the value.

## Main definitions

- `Closes`: what is open around a place takes the rest of a text.

## Main statements

- `read?_eq_some_iff`: the reader reads exactly the documents.
-/

namespace BenchJob.Json

open Grammar

/-! ## Pieces of a value -/

section

variable {first : Bool} {s rest : List Char} {name : String} {v : Reading}

theorem nextMember_none_iff :
    nextMember first s = .ok (none, rest) ↔ Blanks s ('\x7d' :: rest) := by
  rw [← @nextKey_none_iff first]
  unfold nextMember
  constructor
  · intro h
    repeat' split at h
    all_goals cases h
    assumption
  · intro close
    rw [close]

theorem nextMember_some_iff : nextMember first s = .ok (some name, rest) ↔
    ∃ a b, Lead first s a ∧ Quoted a name b ∧ Blanks b (':' :: rest) := by
  unfold nextMember
  constructor
  · intro h
    repeat' split at h
    all_goals cases h
    rename_i next colon
    obtain ⟨a, lead, quoted⟩ := nextKey_some_iff.1 next
    exact ⟨a, _, lead, quoted, colon_eq_ok_iff.1 colon⟩
  · rintro ⟨a, b, lead, quoted, colon⟩
    simp only [nextKey_some_iff.2 ⟨a, lead, quoted⟩, colon_eq_ok_iff.2 colon]

theorem wordStart_eq_ok_iff {word : List Char} {t : Start} :
    wordStart word v s = .ok (t, rest) ↔ t = .whole v ∧ s = word ++ rest := by
  unfold wordStart
  rw [← literal_eq_ok_iff]
  cases literal word s with
  | error e => simp
  | ok p => simp [eq_comm, Prod.ext_iff]

theorem wordStart_append (word : List Char) (v : Reading) (rest : List Char) :
    wordStart word v (word ++ rest) = .ok (.whole v, rest) :=
  wordStart_eq_ok_iff.2 ⟨rfl, rfl⟩

/-- The text starts with this in the grammar: with a value, or with a bracket. -/
def Begins : Start → List Char → List Char → Prop
  | .whole v, s, rest => Value s v rest
  | .array, s, rest => s = '[' :: rest
  | .object, s, rest => s = '\x7b' :: rest

theorem begins_of_start {t : Start} (h : start s = .ok (t, rest)) : Begins t s rest := by
  unfold start at h
  split at h
  · obtain ⟨rfl, rfl⟩ := wordStart_eq_ok_iff.1 h
    exact .null rest
  · obtain ⟨rfl, rfl⟩ := wordStart_eq_ok_iff.1 h
    exact .boolTrue rest
  · obtain ⟨rfl, rfl⟩ := wordStart_eq_ok_iff.1 h
    exact .boolFalse rest
  · split at h
    · cases h
    · rename_i read
      cases h
      exact .str (.mk (text_eq_ok_iff.1 read))
  · cases h
    rfl
  · cases h
    rfl
  · split at h
    · cases h
    · rename_i read
      cases h
      exact .number (number_of_numeral read)

theorem number_head {x : Numeral} (h : Number s x rest) :
    ∃ c s', s = c :: s' ∧ (c = '-' ∨ c.isDigit = true) := by
  cases h with
  | minus => exact ⟨_, _, rfl, .inl rfl⟩
  | mk integer =>
    obtain ⟨c, s', rfl, digit⟩ := whole_head integer
    exact ⟨c, s', rfl, .inr digit⟩

theorem ne_of_number_head {c d : Char} (h : c = '-' ∨ c.isDigit = true)
    (other : d ≠ '-' ∧ d.isDigit = false) : c ≠ d := by
  rintro rfl
  rcases h with minus | digit
  · exact other.1 minus
  · simp [other.2] at digit

theorem start_of_number {x : Numeral} (h : Number s x rest) (ends : EndsNumber rest) :
    start s = .ok (.whole (.number x.exact), rest) := by
  have read := numeral_of_number h ends
  obtain ⟨c, s', rfl, sign⟩ := number_head h
  have other : ∀ d, d ≠ '-' ∧ d.isDigit = false → c ≠ d := fun d => ne_of_number_head sign
  unfold start
  split
  · exact absurd (List.cons.inj ‹_›).1 (other _ (by decide))
  · exact absurd (List.cons.inj ‹_›).1 (other _ (by decide))
  · exact absurd (List.cons.inj ‹_›).1 (other _ (by decide))
  · exact absurd (List.cons.inj ‹_›).1 (other _ (by decide))
  · exact absurd (List.cons.inj ‹_›).1 (other _ (by decide))
  · exact absurd (List.cons.inj ‹_›).1 (other _ (by decide))
  · simp [read]

/-- A value without brackets is what its text starts with. -/
theorem start_of_value (h : Value s v rest) (ends : EndsNumber rest) :
    start s = .ok (.whole v, rest) ∨ (∃ vs, v = .arr vs) ∨ ∃ ms, v = .obj ms := by
  cases h with
  | null => exact .inl (wordStart_append ['u', 'l', 'l'] .null rest)
  | boolTrue => exact .inl (wordStart_append ['r', 'u', 'e'] (.bool true) rest)
  | boolFalse => exact .inl (wordStart_append ['a', 'l', 's', 'e'] (.bool false) rest)
  | number written => exact .inl (start_of_number written ends)
  | str written =>
    cases written with
    | mk body => exact .inl (by simp [start, text_eq_ok_iff.2 body])
  | arr => exact .inr (.inl ⟨_, rfl⟩)
  | obj => exact .inr (.inr ⟨_, rfl⟩)

end

/-! ## Steps of the reader -/

namespace Reader

section

variable {around : List Opened} {s rest : List Char} {first : Bool}

theorem value_of_whole {t : Reading} (h : start (skip s) = .ok (.whole t, rest)) :
    value around s = resume around t rest := by
  unfold value
  split <;> simp_all

theorem value_of_array (h : start (skip s) = .ok (.array, rest)) :
    value around s = items around [] true rest := by
  unfold value
  split <;> simp_all

theorem value_of_object (h : start (skip s) = .ok (.object, rest)) :
    value around s = members around [] true rest := by
  unfold value
  split <;> simp_all

theorem value_of_fault {fault : Fault} (h : start (skip s) = .error fault) : value around s = none := by
  unfold value
  split <;> simp_all

theorem items_of_next {done : List Reading} (h : nextItem first s = .ok (true, rest)) :
    items around done first s = value (.array done :: around) rest := by
  unfold items
  split <;> simp_all

theorem items_of_close {done : List Reading} (h : nextItem first s = .ok (false, rest)) :
    items around done first s = resume around (.arr done.reverse) rest := by
  unfold items
  split <;> simp_all

theorem items_of_fault {done : List Reading} {fault : Fault} (h : nextItem first s = .error fault) :
    items around done first s = none := by
  unfold items
  split <;> simp_all

theorem members_of_next {done : List (String × Reading)} {key : String}
    (h : nextMember first s = .ok (some key, rest)) :
    members around done first s = value (.object done key :: around) rest := by
  unfold members
  split <;> simp_all

theorem members_of_close {done : List (String × Reading)}
    (h : nextMember first s = .ok (none, rest)) :
    members around done first s = resume around (.obj done.reverse) rest := by
  unfold members
  split <;> simp_all

theorem members_of_fault {done : List (String × Reading)} {fault : Fault}
    (h : nextMember first s = .error fault) : members around done first s = none := by
  unfold members
  split <;> simp_all

theorem resume_array (done : List Reading) (t : Reading) :
    resume (.array done :: around) t s = items around (t :: done) false s := by
  rw [resume]

theorem resume_object (done : List (String × Reading)) (key : String) (t : Reading) :
    resume (.object done key :: around) t s = members around ((key, t) :: done) false s := by
  rw [resume]

end

end Reader

/-! ## What is read is a document -/

/-- What is open around a value takes the rest of a text and becomes another value. -/
def Closes : List Opened → Reading → List Char → Reading → Prop
  | [], v, s, r => Blanks s [] ∧ v = r
  | .array done :: around, v, s, r =>
    ∃ vs rest, Items false s vs rest ∧ Closes around (.arr ((v :: done).reverse ++ vs)) rest r
  | .object done key :: around, v, s, r =>
    ∃ members rest, Members false s members rest ∧
      Closes around (.obj (((key, v) :: done).reverse ++ members)) rest r

namespace Reader

/-- A value that is read stands in the text, and what is open around it takes the rest. -/
def ValueSound (around : List Opened) (s : List Char) : Prop :=
  ∀ r, value around s = some r →
    ∃ a v rest, Blanks s a ∧ Value a v rest ∧ Closes around v rest r

def ItemsSound (around : List Opened) (done : List Reading) (first : Bool) (s : List Char) : Prop :=
  ∀ r, items around done first s = some r →
    ∃ vs rest, Items first s vs rest ∧ Closes around (.arr (done.reverse ++ vs)) rest r

def MembersSound (around : List Opened) (done : List (String × Reading)) (first : Bool)
    (s : List Char) : Prop :=
  ∀ r, members around done first s = some r →
    ∃ ms rest, Members first s ms rest ∧ Closes around (.obj (done.reverse ++ ms)) rest r

def ResumeSound (around : List Opened) (v : Reading) (s : List Char) : Prop :=
  ∀ r, resume around v s = some r → Closes around v s r

/-- Every step of the reader takes what the grammar has in its place. -/
theorem sound : (∀ around s, ValueSound around s) ∧
    (∀ around done first s, MembersSound around done first s) ∧
    (∀ around v s, ResumeSound around v s) ∧
    ∀ around done first s, ItemsSound around done first s := by
  -- Along the calls of the reader: a call takes its piece of the grammar and leaves the rest, with
  -- what is open around it, to the call behind it. First the values, then members, what is open
  -- around a value, and items.
  apply value.mutual_induct
  · intro around s fault failed r h
    rw [value_of_fault failed] at h
    cases h
  · intro around s v rest whole behind r h
    rw [value_of_whole whole] at h
    exact ⟨_, v, rest, blanks_skip s, begins_of_start whole, behind r h⟩
  · intro around s rest bracket behind r h
    rw [value_of_array bracket] at h
    obtain ⟨vs, rest', items, closes⟩ := behind r h
    have array := Value.arr items
    rw [← show skip s = '[' :: rest from begins_of_start bracket] at array
    exact ⟨_, _, rest', blanks_skip s, array, closes⟩
  · intro around s rest bracket behind r h
    rw [value_of_object bracket] at h
    obtain ⟨ms, rest', members, closes⟩ := behind r h
    have object := Value.obj members
    rw [← show skip s = '\x7b' :: rest from begins_of_start bracket] at object
    exact ⟨_, _, rest', blanks_skip s, object, closes⟩
  · intro around done first s fault failed r h
    rw [members_of_fault failed] at h
    cases h
  · intro around done first s key rest next behind r h
    rw [members_of_next next] at h
    obtain ⟨a, v, rest', blanks, value, ms, rest'', more, closes⟩ := behind r h
    obtain ⟨b, c, lead, quoted, colon⟩ := nextMember_some_iff.1 next
    refine ⟨(key, v) :: ms, rest'', .member lead quoted colon blanks value more, ?_⟩
    simpa using closes
  · intro around done first s rest close behind r h
    rw [members_of_close close] at h
    refine ⟨[], rest, .close (nextMember_none_iff.1 close), ?_⟩
    rw [List.append_nil]
    exact behind r h
  · intro v s nothing r h
    rw [resume, if_pos nothing] at h
    exact ⟨skip_eq_nil_iff.1 nothing, Option.some.inj h⟩
  · intro v s something r h
    rw [resume, if_neg something] at h
    cases h
  · intro v s done around behind r h
    rw [resume_array] at h
    exact behind r h
  · intro v s done key around behind r h
    rw [resume_object] at h
    exact behind r h
  · intro around done first s fault failed r h
    rw [items_of_fault failed] at h
    cases h
  · intro around done first s rest next behind r h
    rw [items_of_next next] at h
    obtain ⟨a, v, rest', blanks, value, vs, rest'', more, closes⟩ := behind r h
    obtain ⟨lead, -⟩ := nextItem_true_iff.1 next
    refine ⟨v :: vs, rest'', .item (lead.trans blanks) value more, ?_⟩
    simpa using closes
  · intro around done first s rest close behind r h
    rw [items_of_close close] at h
    refine ⟨[], rest, .close (nextItem_false_iff.1 close), ?_⟩
    rw [List.append_nil]
    exact behind r h

/-! ## Documents are read -/

/-- No blank continues a number. -/
theorem endsNumber_of_blanks {s rest : List Char} (blanks : Blanks s rest) (ends : EndsNumber rest) :
    EndsNumber s := by
  cases blanks with
  | nil => exact ends
  | cons blank more =>
    simp only [IsBlank, List.mem_cons, List.not_mem_nil, or_false] at blank
    rcases blank with rfl | rfl | rfl | rfl <;> simp [EndsNumber]

theorem endsNumber_of_items {s rest : List Char} {vs : List Reading}
    (h : Items false s vs rest) : EndsNumber s := by
  cases h with
  | close bracket => exact endsNumber_of_blanks bracket (by simp [EndsNumber])
  | item lead =>
    cases lead with
    | later before => exact endsNumber_of_blanks before (by simp [EndsNumber])

theorem endsNumber_of_members {s rest : List Char} {ms : List (String × Reading)}
    (h : Members false s ms rest) : EndsNumber s := by
  cases h with
  | close bracket => exact endsNumber_of_blanks bracket (by simp [EndsNumber])
  | member lead =>
    cases lead with
    | later before => exact endsNumber_of_blanks before (by simp [EndsNumber])

theorem value_of_written {around : List Opened} {v : Reading} {s a rest : List Char}
    (blanks : Blanks s a) (written : Value a v rest) (ends : EndsNumber rest)
    (whole : (∀ vs, v ≠ .arr vs) ∧ ∀ ms, v ≠ .obj ms) :
    value around s = resume around v rest := by
  obtain ⟨c, a', rfl, token, -⟩ := written.head
  rcases start_of_value written ends with read | ⟨vs, rfl⟩ | ⟨ms, rfl⟩
  · exact value_of_whole (by rwa [skip_eq_cons_iff.2 ⟨blanks, token⟩])
  · exact absurd rfl (whole.1 vs)
  · exact absurd rfl (whole.2 ms)

mutual

/-- The reader goes on behind a value of the grammar with the value. -/
theorem value_complete (around : List Opened) : ∀ (v : Reading) {s a rest : List Char},
    Blanks s a → Value a v rest → EndsNumber rest → value around s = resume around v rest
  | .arr vs, s, a, rest, blanks, written, ends => by
    obtain ⟨behind, rfl, items⟩ := value_arr_iff.1 written
    have bracket : start (skip s) = .ok (.array, behind) := by
      rw [skip_of_token blanks (by simp)]
      rfl
    rw [value_of_array bracket, items_complete around vs items]
    rfl
  | .obj ms, s, a, rest, blanks, written, ends => by
    obtain ⟨behind, rfl, members⟩ := value_obj_iff.1 written
    have bracket : start (skip s) = .ok (.object, behind) := by
      rw [skip_of_token blanks (by simp)]
      rfl
    rw [value_of_object bracket, members_complete around ms members]
    rfl
  | .null, s, a, rest, blanks, written, ends => value_of_written blanks written ends (by simp)
  | .bool b, s, a, rest, blanks, written, ends => value_of_written blanks written ends (by simp)
  | .number q, s, a, rest, blanks, written, ends => value_of_written blanks written ends (by simp)
  | .str t, s, a, rest, blanks, written, ends => value_of_written blanks written ends (by simp)

/-- The reader goes on behind an array of the grammar with the array. -/
theorem items_complete (around : List Opened) : ∀ (vs : List Reading) {done : List Reading}
    {first : Bool} {s rest : List Char}, Items first s vs rest →
      items around done first s = resume around (.arr (done.reverse ++ vs)) rest
  | [], done, first, s, rest, written => by
    rw [items_of_close (nextItem_false_iff.2 (items_nil_iff.1 written)), List.append_nil]
  | v :: vs, done, first, s, rest, written => by
    obtain ⟨a, b, lead, value, more⟩ := items_cons_iff.1 written
    rw [items_of_next (nextItem_true_iff.2 ⟨lead, value.head⟩),
      value_complete (.array done :: around) v (.nil a) value (endsNumber_of_items more),
      resume_array, items_complete around vs more, List.reverse_cons, List.append_assoc,
      List.singleton_append]

/-- The reader goes on behind an object of the grammar with the object. -/
theorem members_complete (around : List Opened) : ∀ (ms : List (String × Reading))
    {done : List (String × Reading)} {first : Bool} {s rest : List Char},
    Members first s ms rest →
      members around done first s = resume around (.obj (done.reverse ++ ms)) rest
  | [], done, first, s, rest, written => by
    rw [members_of_close (nextMember_none_iff.2 (members_nil_iff.1 written)), List.append_nil]
  | (key, v) :: ms, done, first, s, rest, written => by
    obtain ⟨a, b, c, d, e, lead, name, colon, blanks, value, more⟩ := members_cons_iff.1 written
    rw [members_of_next (nextMember_some_iff.2 ⟨a, b, lead, name, colon⟩),
      value_complete (.object done key :: around) v blanks value (endsNumber_of_members more),
      resume_object, members_complete around ms more, List.reverse_cons, List.append_assoc,
      List.singleton_append]

end

end Reader

/-- The reader reads exactly the documents of the grammar, each as the value that it is there. -/
theorem read?_eq_some_iff {s : String} {v : Reading} :
    read? s = some v ↔ Document s.toList v := by
  constructor
  · intro h
    obtain ⟨a, w, rest, blanks, written, behind, rfl⟩ := Reader.sound.1 [] s.toList v h
    exact ⟨a, rest, blanks, written, behind⟩
  · rintro ⟨a, rest, blanks, written, behind⟩
    have ends : EndsNumber rest := Reader.endsNumber_of_blanks behind (by simp [EndsNumber])
    rw [read?, Reader.value_complete [] v blanks written ends, Reader.resume,
      if_pos (skip_eq_nil_iff.2 behind)]

end BenchJob.Json
