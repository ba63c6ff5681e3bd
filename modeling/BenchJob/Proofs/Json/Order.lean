import BenchJob.Json.Value

/-!
# Members in order

A value is canonical if the members of all its objects stand in the order of their keys, each key
once. Sorting a value makes it canonical and changes no canonical value; it loses no member unless
two members of an object have the same key.

## Main definitions

- `Ordered`: members in the order of their keys.
- `Canonical`: a value with ordered members at all levels.

## Main statements

- `canonical_sorted`: a sorted value is canonical.
- `sorted_of_canonical`: a canonical value is sorted already.
- `lookup_sortedMembers`: members with different keys are all there after sorting.
-/

namespace BenchJob.Json

/-- The members stand in the order of their keys, each key once. -/
def Ordered (members : List (String × Json)) : Prop := (members.map (·.1)).Pairwise (· < ·)

/-- The members of every object of the value stand in the order of their keys, each key once. -/
inductive Canonical : Json → Prop where
  | null : Canonical .null
  | bool (b : Bool) : Canonical (.bool b)
  | int (n : Int) : Canonical (.int n)
  | str (s : String) : Canonical (.str s)
  | arr {list : List Json} (items : ∀ item ∈ list, Canonical item) : Canonical (.arr list)
  | obj {list : List (String × Json)} (ordered : Ordered list)
      (values : ∀ member ∈ list, Canonical member.2) : Canonical (.obj list)

/-! ## Looking up a member -/

section

variable {α β : Type} [DecidableEq α] {key other : α} {members : List (α × β)}

theorem lookup_cons_ite (w : β) (members : List (α × β)) :
    ((key, w) :: members).lookup other = if other = key then some w else members.lookup other := by
  rw [List.lookup_cons]
  split <;> simp_all

theorem lookup_eq_none (h : key ∉ members.map (·.1)) : members.lookup key = none := by
  rw [List.lookup_eq_none_iff]
  intro member mem
  have different : key ≠ member.1 := fun eq => h (List.mem_map.2 ⟨member, mem, eq.symm⟩)
  simpa using different

theorem mem_of_lookup {w : β} (h : members.lookup key = some w) : (key, w) ∈ members := by
  obtain ⟨before, behind, rfl, -⟩ := List.lookup_eq_some_iff.1 h
  exact List.mem_append_right _ List.mem_cons_self

/-- Where no key stands twice, every member is found. -/
theorem lookup_of_mem {w : β} (distinct : (members.map (·.1)).Nodup) (mem : (key, w) ∈ members) :
    members.lookup key = some w := by
  induction members with
  | nil => cases mem
  | cons member members ih =>
    obtain ⟨held, v⟩ := member
    obtain ⟨absent, distinct⟩ := List.nodup_cons.1 distinct
    rw [lookup_cons_ite]
    rcases List.mem_cons.1 mem with here | behind
    · obtain ⟨rfl, rfl⟩ := Prod.mk.inj here
      rw [if_pos rfl]
    · have different : key ≠ held := by
        rintro rfl
        exact absent (List.mem_map.2 ⟨_, behind, rfl⟩)
      rw [if_neg different, ih distinct behind]

end

/-! ## Putting in one member -/

section

variable {key other : String} {v : Json}

/-- A member with the key is the new one, the others are as before. -/
theorem lookup_insertMember (members : List (String × Json)) :
    (insertMember key v members).lookup other =
      if other = key then some v else members.lookup other := by
  induction members with
  | nil => rw [insertMember, lookup_cons_ite]
  | cons member rest ih =>
    obtain ⟨held, w⟩ := member
    rw [insertMember]
    split
    · rw [lookup_cons_ite]
    · split
      · rename_i same
        subst same
        rw [lookup_cons_ite, lookup_cons_ite]
        split <;> rfl
      · rename_i different
        rw [lookup_cons_ite, lookup_cons_ite, ih]
        -- The member that is passed has another key than the new one.
        split <;> split <;> simp_all

theorem mem_insertMember {members : List (String × Json)} {member : String × Json}
    (h : member ∈ insertMember key v members) : member = (key, v) ∨ member ∈ members := by
  induction members with
  | nil => simpa [insertMember] using h
  | cons first rest ih =>
    simp only [insertMember] at h
    split at h
    · simpa using h
    · split at h
      · rcases List.mem_cons.1 h with new | old
        · exact .inl new
        · exact .inr (List.mem_cons_of_mem _ old)
      · rcases List.mem_cons.1 h with same | behind
        · exact .inr (by simp [same])
        · exact (ih behind).imp_right (List.mem_cons_of_mem _)

theorem ordered_cons {members : List (String × Json)} :
    Ordered ((key, v) :: members) ↔ (∀ member ∈ members, key < member.1) ∧ Ordered members := by
  simp [Ordered]

theorem ordered_insertMember {members : List (String × Json)} (h : Ordered members) :
    Ordered (insertMember key v members) := by
  induction members with
  | nil => simp [insertMember, Ordered]
  | cons first rest ih =>
    obtain ⟨held, w⟩ := first
    obtain ⟨above, behind⟩ := ordered_cons.1 h
    simp only [insertMember]
    split
    · rename_i less
      refine ordered_cons.2 ⟨?_, h⟩
      intro member mem
      rcases List.mem_cons.1 mem with rfl | later
      · exact less
      · exact String.lt_trans less (above member later)
    · split
      · rename_i same
        exact ordered_cons.2 ⟨same ▸ above, behind⟩
      · rename_i notLess different
        refine ordered_cons.2 ⟨?_, ih behind⟩
        intro member mem
        rcases mem_insertMember mem with rfl | old
        · exact Std.lt_of_le_of_ne (String.not_lt.1 notLess) (Ne.symm different)
        · exact above member old

/-- A member with a larger key than all others is put behind them. -/
theorem insertMember_of_larger {members : List (String × Json)}
    (h : ∀ member ∈ members, member.1 < key) :
    insertMember key v members = members ++ [(key, v)] := by
  induction members with
  | nil => rfl
  | cons first rest ih =>
    obtain ⟨held, w⟩ := first
    have below : held < key := h _ List.mem_cons_self
    have notLess : ¬ key < held := String.lt_asymm below
    have different : key ≠ held := (String.ne_of_lt below).symm
    simp only [insertMember, if_neg notLess, if_neg different, List.cons_append]
    rw [ih fun member mem => h member (List.mem_cons_of_mem _ mem)]

end

/-! ## Sorting -/

mutual

theorem canonical_sorted : ∀ v : Json, v.sorted.Canonical
  | .null => .null
  | .bool b => .bool b
  | .int n => .int n
  | .str s => .str s
  | .arr list => .arr (canonical_sortedItems list)
  | .obj list =>
    have sorted := canonical_sortedMembers list [] .nil (by simp)
    .obj sorted.1 sorted.2

theorem canonical_sortedItems : ∀ list : List Json, ∀ item ∈ sortedItems list, item.Canonical
  | [], item, mem => by simp [sortedItems] at mem
  | first :: rest, item, mem => by
    rcases List.mem_cons.1 mem with rfl | later
    · exact canonical_sorted first
    · exact canonical_sortedItems rest item later

/-- Each member keeps the members that are put together ordered. -/
theorem canonical_sortedMembers : ∀ list acc : List (String × Json), Ordered acc →
    (∀ member ∈ acc, member.2.Canonical) →
    Ordered (sortedMembers list acc) ∧ ∀ member ∈ sortedMembers list acc, member.2.Canonical
  | [], acc, ordered, values => ⟨ordered, values⟩
  | (key, v) :: rest, acc, ordered, values => by
    refine canonical_sortedMembers rest _ (ordered_insertMember ordered) ?_
    intro member mem
    rcases mem_insertMember mem with rfl | old
    · exact canonical_sorted v
    · exact values member old

end

theorem sortedItems_eq_self {list : List Json} (h : ∀ item ∈ list, item.sorted = item) :
    sortedItems list = list := by
  induction list with
  | nil => rfl
  | cons item rest ih =>
    rw [sortedItems, h item List.mem_cons_self,
      ih fun other mem => h other (List.mem_cons_of_mem _ mem)]

theorem sortedMembers_eq_append {list acc : List (String × Json)} (ordered : Ordered list)
    (values : ∀ member ∈ list, member.2.sorted = member.2)
    (above : ∀ member ∈ list, ∀ other ∈ acc, other.1 < member.1) :
    sortedMembers list acc = acc ++ list := by
  induction list generalizing acc with
  | nil => rw [sortedMembers, List.append_nil]
  | cons member rest ih =>
    obtain ⟨key, v⟩ := member
    obtain ⟨less, behind⟩ := ordered_cons.1 ordered
    have last : insertMember key v acc = acc ++ [(key, v)] :=
      insertMember_of_larger (above _ List.mem_cons_self)
    rw [sortedMembers, values _ List.mem_cons_self, last, ih behind, List.append_assoc,
      List.singleton_append]
    · exact fun later mem => values later (List.mem_cons_of_mem _ mem)
    · intro later mem other here
      rcases List.mem_append.1 here with old | new
      · exact above later (List.mem_cons_of_mem _ mem) other old
      · obtain rfl := List.mem_singleton.1 new
        exact less later mem

/-- A canonical value is sorted already. -/
theorem sorted_of_canonical {v : Json} (h : v.Canonical) : v.sorted = v := by
  induction h with
  | null | bool _ | int _ | str _ => rfl
  | arr items ih => rw [sorted, sortedItems_eq_self ih]
  | obj ordered values ih =>
    rw [sorted, sortedMembers_eq_append ordered ih (by simp), List.nil_append]

/-- Members with different keys are all there after sorting. -/
theorem lookup_sortedMembers (key : String) {list : List (String × Json)}
    (acc : List (String × Json)) (h : (list.map (·.1)).Nodup) :
    (sortedMembers list acc).lookup key = ((list.lookup key).map sorted).or (acc.lookup key) := by
  induction list generalizing acc with
  | nil => rfl
  | cons member rest ih =>
    obtain ⟨name, v⟩ := member
    obtain ⟨absent, distinct⟩ := List.nodup_cons.1 h
    rw [sortedMembers, ih _ distinct, lookup_insertMember, lookup_cons_ite]
    split
    · rename_i same
      subst same
      simp [lookup_eq_none absent]
    · rfl

end BenchJob.Json
