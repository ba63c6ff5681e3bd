import BenchJob.Config.Source
import BenchJob.Proofs.Config.Layers
import BenchJob.Proofs.Json.Order
import BenchJob.Proofs.Json.Scanning

/-!
# Which texts store a configuration

A text stores a configuration if it is JSON text for an object whose keys name fields, each at most
once, or for an array that is no longer than the list of all fields; in either case what is given
for a field has to be of its kind. The configuration has what is given, and what is not given is
left open.

A configuration is compared with a document field by field, through the value that it has in a
field. Reading a member or an item changes the value in one field and no other, which is what the
loops over members and items preserve.

## Main definitions

- `Config.reading`: the value that a configuration has in a field.
- `Json.Reading.given`: what a document gives for a field.
- `Config.Stored`: the documents that store a configuration.

## Main statements

- `Config.ofText?_eq_ok_iff`: which texts are read as which configuration.
- `Config.load_stored`: what a file is loaded as.
-/

namespace BenchJob

open Json (Reading lookup_cons_ite lookup_eq_none lookup_of_mem mem_of_lookup)
open Json.Grammar
open Text (Bytes)

/-! ## Keys -/

namespace Key

theorem mem_all (key : Key) : key ∈ all := by
  cases key with
  | benchArgs => decide
  | text field => cases field <;> decide

theorem ofName?_name (key : Key) : ofName? key.name = some key := by
  cases key with
  | benchArgs => rfl
  | text field => cases field <;> rfl

theorem ofName?_eq_some_iff {name : String} {key : Key} :
    ofName? name = some key ↔ key.name = name := by
  constructor
  · intro h
    simpa using List.find?_some h
  · rintro rfl
    exact ofName?_name key

theorem name_injective {a b : Key} (h : a.name = b.name) : a = b := by
  have same := ofName?_name a
  rw [h, ofName?_name b] at same
  exact (Option.some.inj same).symm

def default : Key → Reading
  | .text _ => .null
  | .benchArgs => .arr []

/-- Is the value of the kind that the key asks for? A text may be left open by `null`. -/
def Admits : Key → Reading → Prop
  | .text _, v => v = .null ∨ ∃ t, v = .str t
  | .benchArgs, v => ∃ args : List String, v = .arr (args.map .str)

end Key

/-! ## Values of a configuration -/

namespace Config

def reading (c : Config) : Key → Reading
  | .text field => .ofText? (c.get field)
  | .benchArgs => .arr (c.benchArgs.map .str)

theorem reading_empty (key : Key) : empty.reading key = key.default := by
  cases key with
  | benchArgs => rfl
  | text field => cases field <;> rfl

theorem admits_reading (c : Config) (key : Key) : key.Admits (c.reading key) := by
  cases key with
  | benchArgs => exact ⟨_, rfl⟩
  | text field =>
    cases held : c.get field with
    | none => exact .inl (by rw [reading, held, Reading.ofText?])
    | some t => exact .inr ⟨t, by rw [reading, held, Reading.ofText?]⟩

theorem ofText?_injective {a b : Option String} (h : Reading.ofText? a = .ofText? b) : a = b := by
  cases a <;> cases b <;> simp_all [Reading.ofText?]

/-- A configuration is known by its values. -/
theorem eq_of_reading {c d : Config} (h : ∀ key, c.reading key = d.reading key) : c = d := by
  apply eq_of_get
  · intro field
    exact ofText?_injective (h (.text field))
  · have args := Reading.arr.inj (h .benchArgs)
    exact (List.map_inj_right fun _ _ => Reading.str.inj).1 args

theorem get_set (c : Config) (field other : Field) (value : Option String) :
    (c.set field value).get other = if other = field then value else c.get other := by
  cases field <;> cases other <;> rfl

theorem benchArgs_set (c : Config) (field : Field) (value : Option String) :
    (c.set field value).benchArgs = c.benchArgs := by
  cases field <;> rfl

def put (c : Config) (key : Key) (d : Config) : Config :=
  match key with
  | .text field => c.set field (d.get field)
  | .benchArgs => { c with benchArgs := d.benchArgs }

theorem reading_put (c d : Config) (key other : Key) :
    (c.put key d).reading other = if other = key then d.reading key else c.reading other := by
  cases key with
  | benchArgs =>
    cases other with
    | benchArgs => rfl
    | text field => cases field <;> rfl
  | text field =>
    cases other with
    | benchArgs => simp [put, reading, benchArgs_set]
    | text field' =>
      simp only [put, reading, get_set, Key.text.injEq]
      split <;> simp_all

/-- Only the value in the field matters. -/
theorem put_congr {c d d' : Config} {key : Key} (h : d.reading key = d'.reading key) :
    c.put key d = c.put key d' := by
  apply eq_of_reading
  intro other
  rw [reading_put, reading_put, h]

/-! ## One value -/

/-- A value is taken for a field exactly if it is of the kind that is asked for there, and then it
changes this field alone. -/
theorem assign_eq_ok_iff {c d : Config} {key : Key} {s rest : List Char} :
    c.assign key s = .ok (d, rest) ↔
      ∃ a, Blanks s a ∧ Value a (d.reading key) rest ∧ d = c.put key d := by
  cases key with
  | text field =>
    simp only [assign]
    constructor
    · intro h
      split at h
      · cases h
      · rename_i value rest read
        cases h
        obtain ⟨a, blanks, written⟩ := Json.optionalText_eq_ok_iff.1 read
        refine ⟨a, blanks, ?_, ?_⟩
        · rwa [reading, get_set, if_pos rfl]
        · rw [put, get_set, if_pos rfl]
    · rintro ⟨a, blanks, written, same⟩
      rw [Json.optionalText_eq_ok_iff.2 ⟨a, blanks, written⟩, same]
      simp only [put, get_set, if_pos]
  | benchArgs =>
    simp only [assign]
    constructor
    · intro h
      split at h
      · cases h
      · rename_i args rest read
        cases h
        obtain ⟨a, blanks, written⟩ := Json.texts_eq_ok_iff.1 read
        exact ⟨a, blanks, written, rfl⟩
    · rintro ⟨a, blanks, written, same⟩
      rw [Json.texts_eq_ok_iff.2 ⟨a, blanks, written⟩, same]
      rfl

theorem assign_put {c d : Config} {key : Key} {s rest : List Char}
    (h : ∃ a, Blanks s a ∧ Value a (d.reading key) rest) :
    c.assign key s = .ok (c.put key d, rest) := by
  obtain ⟨a, blanks, value⟩ := h
  have held : (c.put key d).reading key = d.reading key := by rw [reading_put, if_pos rfl]
  exact assign_eq_ok_iff.2 ⟨a, blanks, held.symm ▸ value, put_congr held.symm⟩

/-! ## Members -/

theorem checkKey_eq_ok_iff {seen : List Key} {name : String} {rest : List Char} {key : Key} :
    checkKey seen name rest = .ok key ↔ key.name = name ∧ key ∉ seen := by
  unfold checkKey
  constructor
  · intro h
    split at h
    · cases h
    · split at h
      · cases h
      · rename_i named fresh
        cases h
        exact ⟨Key.ofName?_eq_some_iff.1 named, by simpa using fresh⟩
  · rintro ⟨rfl, fresh⟩
    simp [Key.ofName?_name, fresh]

section

variable {c d : Config} {seen : List Key} {s a b e rest : List Char} {name : String} {key : Key}

theorem members_of_close (close : Json.nextKey seen.isEmpty s = .ok (none, rest)) :
    c.members seen s = .ok (c, rest) := by
  unfold members
  split <;> simp_all

theorem members_of_next (next : Json.nextKey seen.isEmpty s = .ok (some name, a))
    (known : checkKey seen name a = .ok key) (colon : Json.colon a = .ok ((), b))
    (read : c.assign key b = .ok (d, e)) : c.members seen s = d.members (key :: seen) e := by
  rw [members]
  split
  · simp_all
  · simp_all
  · rename_i found
    obtain ⟨rfl, rfl⟩ : _ = name ∧ _ = a := by simpa [next, eq_comm] using found
    simp only [known]
    split
    · simp_all
    · split <;> simp_all

/-- The members name different fields, none of which was seen before, and their values lead from one
configuration to another: the fields that they name have these values in the end, and the others
have the values from before. -/
structure Gathers (c : Config) (seen : List Key) (members : List (String × Reading)) (d : Config) :
    Prop where
  distinct : (members.map (·.1)).Nodup
  known : ∀ member ∈ members, ∃ key ∉ seen, Key.name key = member.1
  values : ∀ key, d.reading key = (members.lookup key.name).getD (c.reading key)

theorem gathers_nil_iff : c.Gathers seen [] d ↔ d = c := by
  constructor
  · intro h
    exact eq_of_reading h.values
  · rintro rfl
    exact ⟨List.nodup_nil, by simp, fun key => rfl⟩

/-- A field that was seen keeps its value. -/
theorem Gathers.reading_of_seen {members : List (String × Reading)} (h : c.Gathers seen members d)
    (mem : key ∈ seen) : key.name ∉ members.map (·.1) ∧ d.reading key = c.reading key := by
  have absent : key.name ∉ members.map (·.1) := by
    intro named
    obtain ⟨member, mem', same⟩ := List.mem_map.1 named
    obtain ⟨other, unseen, named⟩ := h.known member mem'
    obtain rfl := Key.name_injective (named.trans same)
    exact unseen mem
  exact ⟨absent, by rw [h.values, lookup_eq_none absent, Option.getD_none]⟩

theorem gathers_cons_iff {v : Reading} {members : List (String × Reading)} :
    c.Gathers seen ((name, v) :: members) d ↔ ∃ key ∉ seen, Key.name key = name ∧
      d.reading key = v ∧ (c.put key d).Gathers (key :: seen) members d := by
  constructor
  · rintro ⟨distinct, known, values⟩
    obtain ⟨absent, others⟩ := List.nodup_cons.1 distinct
    obtain ⟨key, fresh, rfl⟩ := known _ List.mem_cons_self
    have given : d.reading key = v := by
      rw [values key, lookup_cons_ite, if_pos rfl, Option.getD_some]
    refine ⟨key, fresh, rfl, given, others, ?_, ?_⟩
    · intro member mem
      obtain ⟨other, unseen, named⟩ := known member (List.mem_cons_of_mem _ mem)
      refine ⟨other, ?_, named⟩
      intro seen
      rcases List.mem_cons.1 seen with rfl | before
      · exact absent (List.mem_map.2 ⟨member, mem, named.symm⟩)
      · exact unseen before
    · intro other
      rw [reading_put]
      by_cases same : other = key
      · rw [if_pos same, same, lookup_eq_none absent, Option.getD_none]
      · have otherName : other.name ≠ key.name := fun eq => same (Key.name_injective eq)
        rw [if_neg same, values other, lookup_cons_ite, if_neg otherName]
  · rintro ⟨key, fresh, rfl, rfl, rest⟩
    obtain ⟨absent, -⟩ := rest.reading_of_seen List.mem_cons_self
    refine ⟨List.nodup_cons.2 ⟨absent, rest.distinct⟩, ?_, ?_⟩
    · intro member mem
      rcases List.mem_cons.1 mem with rfl | later
      · exact ⟨key, fresh, rfl⟩
      · obtain ⟨other, unseen, named⟩ := rest.known member later
        exact ⟨other, fun seen => unseen (List.mem_cons_of_mem _ seen), named⟩
    · intro other
      rw [lookup_cons_ite]
      by_cases same : other = key
      · rw [same, if_pos rfl, Option.getD_some]
      · have otherName : other.name ≠ key.name := fun eq => same (Key.name_injective eq)
        rw [if_neg otherName, rest.values other, reading_put, if_neg same]

/-- The members of an object are read exactly if each names another field and gives it a value of
its kind. -/
theorem members_eq_ok_iff :
    c.members seen s = .ok (d, rest) ↔
      ∃ members, Members seen.isEmpty s members rest ∧ c.Gathers seen members d := by
  constructor
  · intro h
    fun_induction members c seen s generalizing rest with
    | case1 => cases h
    | case2 c seen s behind close =>
      cases h
      exact ⟨[], .close (Json.nextKey_none_iff.1 close), gathers_nil_iff.2 rfl⟩
    | case3 => cases h
    | case4 => cases h
    | case5 => cases h
    | case6 c seen s name a next key known b colon c' e read ih =>
      obtain ⟨named, fresh⟩ := checkKey_eq_ok_iff.1 known
      obtain ⟨a', lead, quoted⟩ := Json.nextKey_some_iff.1 next
      obtain ⟨b', blanks, value, only⟩ := assign_eq_ok_iff.1 read
      obtain ⟨members, more, gathers⟩ := ih h
      obtain ⟨-, kept⟩ := gathers.reading_of_seen List.mem_cons_self
      refine ⟨(name, c'.reading key) :: members,
        .member lead quoted (Json.colon_eq_ok_iff.1 colon) blanks value more,
        gathers_cons_iff.2 ⟨key, fresh, named, kept, ?_⟩⟩
      rwa [put_congr kept, ← only]
  · rintro ⟨members, written, gathers⟩
    induction members generalizing c seen s with
    | nil =>
      rw [gathers_nil_iff.1 gathers]
      exact members_of_close (Json.nextKey_none_iff.2 (members_nil_iff.1 written))
    | cons member members ih =>
      obtain ⟨name, v⟩ := member
      obtain ⟨key, fresh, named, rfl, rest⟩ := gathers_cons_iff.1 gathers
      obtain ⟨a, a', b, b', e, lead, quoted, colon, blanks, value, more⟩ :=
        members_cons_iff.1 written
      have read : c.assign key b = .ok (c.put key d, e) :=
        assign_put ⟨b', blanks, value⟩
      rw [members_of_next (Json.nextKey_some_iff.2 ⟨a, lead, quoted⟩)
        (checkKey_eq_ok_iff.2 ⟨named, fresh⟩) (Json.colon_eq_ok_iff.2 colon) read]
      exact ih more rest

end

/-! ## Items -/

section

variable {c d : Config} {keys : List Key} {key : Key} {items : List Reading} {v : Reading}

theorem mem_of_mem_zip (h : key ∈ (keys.zip items).map (·.1)) : key ∈ keys := by
  obtain ⟨entry, mem, rfl⟩ := List.mem_map.1 h
  exact (List.of_mem_zip mem).1

theorem lookup_zip_eq_none (h : key ∉ keys) : (keys.zip items).lookup key = none :=
  lookup_eq_none fun mem => h (mem_of_mem_zip mem)

theorem nodup_zip (distinct : keys.Nodup) : ((keys.zip items).map (·.1)).Nodup := by
  induction keys generalizing items with
  | nil => exact List.nodup_nil
  | cons key keys ih =>
    obtain ⟨fresh, distinct⟩ := List.nodup_cons.1 distinct
    cases items with
    | nil => exact List.nodup_nil
    | cons v items =>
      exact List.nodup_cons.2 ⟨fun mem => fresh (mem_of_mem_zip mem), ih distinct⟩

/-- There are not more items than fields left, and these values in the fields, in their order, lead
from one configuration to another. -/
structure Fills (c : Config) (keys : List Key) (items : List Reading) (d : Config) : Prop where
  short : items.length ≤ keys.length
  values : ∀ key, d.reading key = ((keys.zip items).lookup key).getD (c.reading key)

theorem fills_nil_iff : c.Fills keys [] d ↔ d = c := by
  constructor
  · intro h
    apply eq_of_reading
    intro key
    rw [h.values, List.zip_nil_right, List.lookup_nil, Option.getD_none]
  · rintro rfl
    refine ⟨Nat.zero_le _, fun key => ?_⟩
    rw [List.zip_nil_right, List.lookup_nil, Option.getD_none]

theorem fills_cons_iff (fresh : key ∉ keys) :
    c.Fills (key :: keys) (v :: items) d ↔
      d.reading key = v ∧ (c.put key d).Fills keys items d := by
  constructor
  · rintro ⟨short, values⟩
    have given : d.reading key = v := by
      rw [values key, List.zip_cons_cons, lookup_cons_ite, if_pos rfl, Option.getD_some]
    refine ⟨given, Nat.le_of_succ_le_succ short, ?_⟩
    intro other
    rw [reading_put]
    by_cases same : other = key
    · rw [if_pos same, same, lookup_zip_eq_none fresh, Option.getD_none]
    · rw [if_neg same, values other, List.zip_cons_cons, lookup_cons_ite, if_neg same]
  · rintro ⟨rfl, short, values⟩
    refine ⟨Nat.succ_le_succ short, ?_⟩
    intro other
    rw [List.zip_cons_cons, lookup_cons_ite]
    by_cases same : other = key
    · rw [same, if_pos rfl, Option.getD_some]
    · rw [if_neg same, values other, reading_put, if_neg same]

/-- The items of an array are read exactly if there are not too many and each is of the kind of the
field in its place. -/
theorem items_eq_ok_iff {first : Bool} {s rest : List Char} (distinct : keys.Nodup) :
    c.items first keys s = .ok (d, rest) ↔
      ∃ items, Items first s items rest ∧ c.Fills keys items d := by
  induction keys generalizing c first s with
  | nil =>
    rw [Config.items]
    constructor
    · intro h
      split at h
      · cases h
      · rename_i close
        cases h
        exact ⟨[], .close (Json.closeArray_eq_ok_iff.1 close), fills_nil_iff.2 rfl⟩
    · rintro ⟨items, written, fills⟩
      obtain rfl := List.eq_nil_of_length_eq_zero (Nat.le_zero.1 fills.short)
      rw [Json.closeArray_eq_ok_iff.2 (items_nil_iff.1 written), fills_nil_iff.1 fills]
  | cons key keys ih =>
    obtain ⟨fresh, distinct⟩ := List.nodup_cons.1 distinct
    rw [Config.items]
    constructor
    · intro h
      split at h
      · cases h
      · rename_i close
        cases h
        exact ⟨[], .close (Json.nextItem_false_iff.1 close), fills_nil_iff.2 rfl⟩
      · rename_i item next
        split at h
        · cases h
        · rename_i c' behind read
          obtain ⟨lead, -⟩ := Json.nextItem_true_iff.1 next
          obtain ⟨a, blanks, value, only⟩ := assign_eq_ok_iff.1 read
          obtain ⟨items, more, fills⟩ := (ih distinct).1 h
          -- No later item is for this field, so the value that it has in the end is its own.
          have kept : d.reading key = c'.reading key := by
            rw [fills.values, lookup_zip_eq_none fresh, Option.getD_none]
          refine ⟨c'.reading key :: items, .item (lead.trans blanks) value more,
            (fills_cons_iff fresh).2 ⟨kept, ?_⟩⟩
          rwa [put_congr kept, ← only]
    · rintro ⟨items, written, fills⟩
      cases items with
      | nil =>
        rw [Json.nextItem_false_iff.2 (items_nil_iff.1 written), fills_nil_iff.1 fills]
      | cons v items =>
        obtain ⟨a, b, lead, value, more⟩ := items_cons_iff.1 written
        obtain ⟨rfl, rest⟩ := (fills_cons_iff fresh).1 fills
        have read := assign_put (c := c) ⟨a, .nil a, value⟩
        rw [Json.nextItem_true_iff.2 ⟨lead, value.head⟩]
        simp only [read]
        exact (ih distinct).2 ⟨items, more, rest⟩

end

/-! ## Documents -/

end Config

/-- What a document gives for a field: an object by its name, an array by its place. -/
def Json.Reading.given : Reading → Key → Option Reading
  | .obj members, key => members.lookup key.name
  | .arr items, key => (Key.all.zip items).lookup key
  | _, _ => none

namespace Config

/-- The documents that store a configuration: objects whose keys name fields, each at most once, and
arrays that give at most as many values as there are fields. The values are of the kinds of their
fields. -/
inductive Stored : Reading → Prop where
  | object {members : List (String × Reading)} (distinct : (members.map (·.1)).Nodup)
      (known : ∀ member ∈ members, ∃ key, Key.name key = member.1 ∧ key.Admits member.2) :
      Stored (.obj members)
  | array {items : List Reading} (short : items.length ≤ Key.all.length)
      (kinds : ∀ entry ∈ Key.all.zip items, entry.1.Admits entry.2) : Stored (.arr items)

/-- The configuration has the values that a document gives, and leaves all other fields open. -/
def StoredAs (c : Config) (v : Reading) : Prop :=
  Stored v ∧ ∀ key, c.reading key = (v.given key).getD key.default

theorem storedAs_obj_iff {c : Config} {members : List (String × Reading)} :
    c.StoredAs (.obj members) ↔ empty.Gathers [] members c := by
  constructor
  · rintro ⟨⟨distinct, known⟩, values⟩
    refine ⟨distinct, ?_, ?_⟩
    · intro member mem
      obtain ⟨key, named, -⟩ := known member mem
      exact ⟨key, List.not_mem_nil, named⟩
    · intro key
      rw [reading_empty]
      exact values key
  · rintro ⟨distinct, known, values⟩
    refine ⟨.object distinct ?_, ?_⟩
    · rintro ⟨name, v⟩ mem
      obtain ⟨key, -, rfl⟩ := known _ mem
      refine ⟨key, rfl, ?_⟩
      have given := values key
      rw [lookup_of_mem distinct mem, Option.getD_some] at given
      exact given ▸ admits_reading c key
    · intro key
      rw [values, reading_empty]
      rfl

theorem storedAs_arr_iff {c : Config} {items : List Reading} :
    c.StoredAs (.arr items) ↔ empty.Fills Key.all items c := by
  constructor
  · rintro ⟨stored, values⟩
    cases stored with
    | array short kinds =>
      refine ⟨short, ?_⟩
      intro key
      rw [reading_empty]
      exact values key
  · rintro ⟨short, values⟩
    refine ⟨.array short ?_, ?_⟩
    · rintro ⟨key, v⟩ mem
      have distinct : ((Key.all.zip items).map (·.1)).Nodup := nodup_zip (by decide)
      have given := values key
      rw [lookup_of_mem distinct mem, Option.getD_some] at given
      exact given ▸ admits_reading c key
    · intro key
      rw [values, reading_empty]
      rfl

/-- Values of the right kinds are those of a configuration. -/
theorem exists_of_admits {values : Key → Reading} (h : ∀ key : Key, key.Admits (values key)) :
    ∃ c : Config, ∀ key, c.reading key = values key := by
  have text : ∀ field : Field, ∃ t, Reading.ofText? t = values (.text field) := by
    intro field
    rcases h (.text field) with null | ⟨t, held⟩
    · exact ⟨none, null.symm⟩
    · exact ⟨some t, held.symm⟩
  obtain ⟨texts, held⟩ := Classical.skolem.1 text
  obtain ⟨args, given⟩ := h .benchArgs
  refine ⟨⟨texts .builder, texts .revision, texts .perfDataDir, texts .resourceDir,
    texts .devicePerfDir, texts .outDir, texts .configuration, texts .repoDir, args⟩, ?_⟩
  intro key
  cases key with
  | benchArgs => exact given.symm
  | text field => cases field <;> exact held _

/-- Every document of the right form stores a configuration. -/
theorem exists_storedAs {v : Reading} (h : Stored v) : ∃ c : Config, c.StoredAs v := by
  have admitted : ∀ key : Key, key.Admits ((v.given key).getD key.default) := by
    intro key
    cases given : v.given key with
    | none =>
      rw [Option.getD_none, ← reading_empty]
      exact admits_reading empty key
    | some w =>
      rw [Option.getD_some]
      cases h with
      | object distinct known =>
        obtain ⟨other, named, admits⟩ := known _ (mem_of_lookup given)
        obtain rfl := Key.name_injective named
        exact admits
      | array short kinds => exact kinds _ (mem_of_lookup given)
  obtain ⟨c, values⟩ := exists_of_admits admitted
  exact ⟨c, h, values⟩

theorem value_eq_ok_iff {c : Config} {s rest : List Char} :
    value s = .ok (c, rest) ↔ ∃ a v, Blanks s a ∧ Value a v rest ∧ c.StoredAs v := by
  constructor
  · intro h
    unfold value at h
    split at h
    · rename_i behind brace
      obtain ⟨members, written, gathers⟩ := members_eq_ok_iff.1 h
      exact ⟨_, _, Json.blanks_of_skip brace, .obj written, storedAs_obj_iff.2 gathers⟩
    · rename_i behind bracket
      obtain ⟨items, written, fills⟩ := (items_eq_ok_iff (by decide)).1 h
      exact ⟨_, _, Json.blanks_of_skip bracket, .arr written, storedAs_arr_iff.2 fills⟩
    · cases h
  · rintro ⟨a, v, blanks, written, stored⟩
    cases stored.1 with
    | object =>
      obtain ⟨behind, rfl, members⟩ := value_obj_iff.1 written
      simp only [value, Json.skip_of_token blanks (by simp)]
      exact members_eq_ok_iff.2 ⟨_, members, storedAs_obj_iff.1 stored⟩
    | array =>
      obtain ⟨behind, rfl, items⟩ := value_arr_iff.1 written
      simp only [value, Json.skip_of_token blanks (by simp)]
      exact (items_eq_ok_iff (by decide)).2 ⟨_, items, storedAs_arr_iff.1 stored⟩

/-- A text is read as a configuration exactly if it is JSON text for a document that stores it. -/
theorem ofText?_eq_ok_iff {text : String} {c : Config} :
    ofText? text = .ok c ↔ ∃ v, Document text.toList v ∧ c.StoredAs v := by
  unfold ofText? ofChars?
  constructor
  · intro h
    split at h
    · cases h
    · rename_i d rest read
      split at h
      · rename_i behind
        cases h
        obtain ⟨a, v, blanks, written, stored⟩ := value_eq_ok_iff.1 read
        exact ⟨v, ⟨a, rest, blanks, written, Json.skip_eq_nil_iff.1 behind⟩, stored⟩
      · cases h
  · rintro ⟨v, ⟨a, rest, blanks, written, behind⟩, stored⟩
    rw [value_eq_ok_iff.2 ⟨a, v, blanks, written, stored⟩]
    simp only [Json.skip_eq_nil_iff.2 behind]

end Config

/-! ## Files -/

def Files.Holds (t : Files) (path : String) (bytes : Bytes) : Prop :=
  ∃ name content, t.walk path = .ok (.file name content) ∧ content.bytes = bytes

theorem Files.readText_eq_ok_iff {t : Files} {path text : String} :
    t.readText path = .ok text ↔ t.Holds path (Text.encode text) := by
  unfold readText
  constructor
  · intro h
    split at h
    · cases h
    · rename_i name content walked
      split at h
      · rename_i read
        cases h
        exact ⟨name, content, walked, Text.decode?_eq_some_iff.1 read⟩
      · cases h
    · cases h
  · rintro ⟨name, content, walked, bytes⟩
    simp only [walked, Text.decode?_eq_some_iff.2 bytes]

theorem World.readText_eq_ok_iff {w : World} {path purpose text : String} :
    w.readText path purpose = .ok text ↔ w.files.Holds path (Text.encode text) := by
  rw [← Files.readText_eq_ok_iff, readText]
  cases w.files.readText path <;> simp

namespace Config

section

variable {w : World} {path text : String}

theorem load_of_ok {c : Config} (held : w.files.Holds path (Text.encode text))
    (read : ofText? text = .ok c) : load w path = .ok c := by
  simp only [load, World.readText_eq_ok_iff.2 held, read]

theorem load_of_fault {fault : Json.Fault} (held : w.files.Holds path (Text.encode text))
    (read : ofText? text = .error fault) :
    load w path = .error (.configInvalidJson path (fault.message text)) := by
  simp only [load, World.readText_eq_ok_iff.2 held, read]

end

/-- A text is read as a configuration exactly if it is JSON text for a document that stores one. A
file with such a text is loaded as the configuration that the document stores: it has the values
that are given and leaves everything else open. Any other text is refused as JSON, with the path of
the file, and a file without a text is refused as a file. -/
theorem load_stored (w : World) (path : String) :
    (∀ text, (∃ c, ofText? text = .ok c) ↔ ∃ v, Document text.toList v ∧ Stored v) ∧
    (∀ text c, ofText? text = .ok c ↔ ∃ v, Document text.toList v ∧ Stored v ∧
      ∀ key, c.reading key = (v.given key).getD key.default) ∧
    (∀ text, w.files.Holds path (Text.encode text) →
      (∀ c, load w path = .ok c ↔ ofText? text = .ok c) ∧
      ((¬ ∃ v, Document text.toList v ∧ Stored v) →
        ∃ code problem, load w path = .error ⟨code, "Invalid JSON in configuration",
          .obj [("error", .str problem), ("path", .str path)], []⟩ ∧
          code.text = "config.invalid_json")) ∧
    ((∀ text, ¬ w.files.Holds path (Text.encode text)) →
      ∃ (code : Failure.Code) (e : OsError), load w path = .error ⟨code, "IO error",
        .obj [("context", .str ("read " ++ path)), ("error", .str e.text)], []⟩ ∧
        code.text = "internal.io_error") := by
  refine ⟨?_, ?_, ?_, ?_⟩
  · intro text
    constructor
    · rintro ⟨c, read⟩
      obtain ⟨v, written, stored⟩ := ofText?_eq_ok_iff.1 read
      exact ⟨v, written, stored.1⟩
    · rintro ⟨v, written, stored⟩
      obtain ⟨c, stored⟩ := exists_storedAs stored
      exact ⟨c, ofText?_eq_ok_iff.2 ⟨v, written, stored⟩⟩
  · intro text c
    exact ofText?_eq_ok_iff
  · intro text held
    cases read : ofText? text with
    | ok d =>
      rw [load_of_ok held read]
      obtain ⟨v, written, stored⟩ := ofText?_eq_ok_iff.1 read
      exact ⟨fun c => by simp, fun none => absurd ⟨v, written, stored.1⟩ none⟩
    | error fault =>
      rw [load_of_fault held read]
      exact ⟨fun c => by simp, fun _ => ⟨_, fault.message text, rfl, rfl⟩⟩
  · intro noText
    cases read : w.files.readText path with
    | ok text => exact absurd (Files.readText_eq_ok_iff.1 read) (noText text)
    | error e => exact ⟨_, e, by simp only [load, World.readText, read]; rfl, rfl⟩

end Config

end BenchJob
