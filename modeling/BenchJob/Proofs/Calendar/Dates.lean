import Mathlib.Data.Int.Init
import BenchJob.Calendar

/-!
# Dates counted day by day

A day is found in its cycle of 400 years, its century, its group of four years, its year and its
month, each time by a division. What comes out is the date that counting leads to, one day after the
other, forwards or backwards from 1970-01-01. Both ends of the argument are the number of days before
a year and the length of a year: the first grows by the second from each year to the next, also before
year 1, and a day of a year is told by its month and its place in it.

## Main definitions

- `Date.next`: the day after a date.
- `Date.Counted`: the date to which counting the days leads.

## Main statements

- `Date.dayNumber_ofDayNumber`, `Date.valid_ofDayNumber`: a number of days leads to a date of the
  calendar, and the date back to the number.
- `Date.dayNumber_next`: the day after a date has the next number.
- `Date.dayNumber_injective`: no two dates of the calendar have the same number.
- `Date.counted_iff`: counting leads to the date with the number that was counted.
-/

namespace BenchJob.Calendar

/-! ## Months -/

theorem foldl_add_eq (lengths : List Nat) (n : Nat) :
    lengths.foldl (· + ·) n = n + daysOf lengths :=
  (List.foldl_assoc : lengths.foldl (· + ·) (n + 0) = n + lengths.foldl (· + ·) 0)

@[simp] theorem daysOf_nil : daysOf [] = 0 := rfl

@[simp] theorem daysOf_cons (length : Nat) (rest : List Nat) :
    daysOf (length :: rest) = length + daysOf rest := by
  rw [daysOf, List.foldl_cons, foldl_add_eq, Nat.zero_add]

theorem daysOf_append (before behind : List Nat) :
    daysOf (before ++ behind) = daysOf before + daysOf behind := by
  rw [daysOf, List.foldl_append, foldl_add_eq, ← daysOf]

theorem daysOf_take_succ {lengths : List Nat} {i length : Nat} (h : lengths[i]? = some length) :
    daysOf (lengths.take (i + 1)) = daysOf (lengths.take i) + length := by
  simp [List.take_add_one, h, daysOf_append]

theorem daysOf_take_le (lengths : List Nat) (i : Nat) :
    daysOf (lengths.take i) ≤ daysOf lengths := by
  have split := daysOf_append (lengths.take i) (lengths.drop i)
  rw [List.take_append_drop] at split
  omega

/-- Each day within months of these lengths lies in one of them. -/
theorem exists_month {lengths : List Nat} {n : Nat} (h : n < daysOf lengths) :
    ∃ i length day, lengths[i]? = some length ∧ day < length ∧
      n = daysOf (lengths.take i) + day := by
  induction lengths generalizing n with
  | nil => simp at h
  | cons first rest ih =>
    by_cases inside : n < first
    · exact ⟨0, first, n, rfl, inside, by simp⟩
    · obtain ⟨i, length, day, month, inMonth, split⟩ := ih (n := n - first) (by simp at h; omega)
      refine ⟨i + 1, length, day, by simpa using month, inMonth, ?_⟩
      simp only [List.take_succ_cons, daysOf_cons]
      omega

/-- A day is found in its month. -/
theorem findMonth_of_month {lengths : List Nat} {i length day : Nat} (month : Nat)
    (h : lengths[i]? = some length) (inMonth : day < length) :
    findMonth lengths month (daysOf (lengths.take i) + day) = (month + i, day) := by
  induction lengths generalizing i month with
  | nil => simp at h
  | cons first rest ih =>
    cases i with
    | zero =>
      obtain rfl : first = length := by simpa using h
      simp [findMonth, inMonth]
    | succ i =>
      have behind := ih (month + 1) (by simpa using h)
      have passed : ¬ first + daysOf (rest.take i) + day < first := by omega
      have left : first + daysOf (rest.take i) + day - first = daysOf (rest.take i) + day := by omega
      rw [List.take_succ_cons, daysOf_cons, findMonth, if_neg passed, left, behind]
      congr 1
      omega

/-! ## Years -/

theorem isLeap_iff {year : Int} :
    isLeap year = true ↔ year % 4 = 0 ∧ (year % 100 ≠ 0 ∨ year % 400 = 0) := by
  simp [isLeap]

theorem daysOf_monthLengths (year : Int) :
    daysOf (monthLengths year) = if isLeap year then 366 else 365 := by
  unfold monthLengths
  cases isLeap year <;> rfl

theorem length_monthLengths (year : Int) : (monthLengths year).length = 12 := rfl

theorem bounds_of_mem_monthLengths {year : Int} {length : Nat} (h : length ∈ monthLengths year) :
    0 < length ∧ length ≤ 31 := by
  have all : ∀ length ∈ monthLengths year, 0 < length ∧ length ≤ 31 := by
    unfold monthLengths
    cases isLeap year <;> simp
  exact all length h

/-- Each of the twelve months has days. -/
theorem exists_length (year : Int) {i : Nat} (h : i < 12) :
    ∃ length, (monthLengths year)[i]? = some length ∧ 0 < length :=
  ⟨(monthLengths year)[i], List.getElem?_eq_getElem h,
    (bounds_of_mem_monthLengths (List.getElem_mem h)).1⟩

/-- From the first day of a year to that of the next one, it is the length of the year. -/
theorem daysBeforeYear_succ (year : Int) :
    daysBeforeYear (year + 1) = daysBeforeYear year + daysOf (monthLengths year) := by
  have leap : isLeap year = true ↔ _ := isLeap_iff
  rw [daysOf_monthLengths]
  unfold daysBeforeYear
  split <;> simp_all <;> omega

theorem daysBeforeYear_add (year : Int) (n : Nat) :
    daysBeforeYear year + 365 * n ≤ daysBeforeYear (year + n) := by
  unfold daysBeforeYear
  omega

/-- A year that begins later begins after the last day of an earlier one. -/
theorem daysBeforeYear_lt {year later : Int} (h : year < later) :
    daysBeforeYear year + daysOf (monthLengths year) ≤ daysBeforeYear later := by
  have after := daysBeforeYear_add (year + 1) (later - (year + 1)).toNat
  rw [show year + 1 + ((later - (year + 1)).toNat : Int) = later by omega] at after
  rw [← daysBeforeYear_succ]
  omega

/-! ## Years in their cycle -/

section

variable (cycle : Int) {century group single : Nat}

/-- The days before a year, by the whole cycles, centuries, groups and single years before it. -/
theorem daysBeforeYear_place (hcentury : century ≤ 3) (hgroup : group ≤ 24) (hsingle : single ≤ 3) :
    daysBeforeYear (400 * cycle + 100 * century + 4 * group + single + 1) =
      146097 * cycle + 36524 * century + 1461 * group + 365 * single := by
  unfold daysBeforeYear
  have groups : (400 * cycle + 100 * century + 4 * group + single + 1 - 1) / 4 =
      100 * cycle + 25 * century + group := by omega
  have centuries : (400 * cycle + 100 * century + 4 * group + single + 1 - 1) / 100 =
      4 * cycle + century := by omega
  have cycles : (400 * cycle + 100 * century + 4 * group + single + 1 - 1) / 400 = cycle := by omega
  omega

/-- The last year of a group is a leap year, unless the group is the last one of a century that is
not the last one of its cycle. -/
theorem isLeap_place (hcentury : century ≤ 3) (hgroup : group ≤ 24) (hsingle : single ≤ 3) :
    isLeap (400 * cycle + 100 * century + 4 * group + single + 1) = true ↔
      single = 3 ∧ (group ≠ 24 ∨ century = 3) := by
  rw [isLeap_iff]
  omega

end

/-- A day of a cycle in its century, its group and its year. The caps at three give the days that the
last century, or the last year of a group, has more than the others to that century or year. -/
theorem cycle_split {inCycle : Nat} (h : inCycle < 146097) :
    let century := min (inCycle / 36524) 3
    let inCentury := inCycle - 36524 * century
    let group := inCentury / 1461
    let single := min (inCentury % 1461 / 365) 3
    let inYear := inCentury % 1461 - 365 * single
    century ≤ 3 ∧ group ≤ 24 ∧ single ≤ 3 ∧
      inCycle = 36524 * century + 1461 * group + 365 * single + inYear ∧
      (inYear < 365 ∨ inYear = 365 ∧ single = 3 ∧ (group ≠ 24 ∨ century = 3)) := by
  intro century inCentury group single inYear
  have century_eq : century = min (inCycle / 36524) 3 := rfl
  have inCentury_eq : inCentury = inCycle - 36524 * century := rfl
  have group_eq : group = inCentury / 1461 := rfl
  have single_eq : single = min (inCentury % 1461 / 365) 3 := rfl
  have inYear_eq : inYear = inCentury % 1461 - 365 * single := rfl
  have inCentury_le : inCentury ≤ 36524 ∧ (inCentury = 36524 → century = 3) := by omega
  omega

/-! ## Dates -/

namespace Date

/-- The day after a date: in the same month, in the next one, or in the next year. -/
def next (d : Date) : Date :=
  if d.day < ((monthLengths d.year)[d.month - 1]?).getD 0 then ⟨d.year, d.month, d.day + 1⟩
  else if d.month < 12 then ⟨d.year, d.month + 1, 1⟩
  else ⟨d.year + 1, 1, 1⟩

/-- Counting the days one by one from 1970-01-01, forwards or backwards, leads to the date. -/
inductive Counted : Int → Date → Prop where
  | start : Counted 0 ⟨1970, 1, 1⟩
  | forwards {n : Int} {d : Date} (counted : Counted n d) : Counted (n + 1) d.next
  | backwards {n : Int} {d : Date} (valid : d.Valid) (counted : Counted n d.next) :
      Counted (n - 1) d

variable {d e : Date} {n : Int} {year : Int} {i day length : Nat}

theorem valid_mk (h : (monthLengths year)[i]? = some length) (inMonth : day < length) :
    Valid ⟨year, i + 1, day + 1⟩ :=
  ⟨length, h, by simp, by simp, inMonth⟩

/-- A date of the calendar, with its month and its day counted from zero. -/
theorem Valid.exists_month (h : d.Valid) : ∃ i day length, d = ⟨d.year, i + 1, day + 1⟩ ∧
    (monthLengths d.year)[i]? = some length ∧ day < length := by
  obtain ⟨year, month, day⟩ := d
  obtain ⟨length, found, month_pos, day_pos, inMonth⟩ := h
  refine ⟨month - 1, day - 1, length, ?_, found, ?_⟩
  · simp only [mk.injEq, true_and]
    simp only at month_pos day_pos
    omega
  · simp only at day_pos inMonth
    omega

theorem Valid.month_le (h : d.Valid) : d.month ≤ 12 := by
  obtain ⟨length, found, -⟩ := h
  have inYear := (List.getElem?_eq_some_iff.1 found).1
  rw [length_monthLengths] at inYear
  omega

theorem Valid.day_le (h : d.Valid) : d.day ≤ 31 := by
  obtain ⟨length, found, -, -, inMonth⟩ := h
  exact Nat.le_trans inMonth (bounds_of_mem_monthLengths (List.mem_of_getElem? found)).2

theorem dayNumber_mk (year : Int) (i day : Nat) :
    dayNumber ⟨year, i + 1, day + 1⟩ =
      daysBeforeYear year + (daysOf ((monthLengths year).take i) + day : Nat) - epochDays := by
  simp only [dayNumber, Nat.add_sub_cancel]
  omega

/-- A day of a year comes before the first day of the next one. -/
theorem place_lt (h : (monthLengths year)[i]? = some length) (inMonth : day < length) :
    daysOf ((monthLengths year).take i) + day < daysOf (monthLengths year) := by
  have whole := daysOf_take_le (monthLengths year) (i + 1)
  rw [daysOf_take_succ h] at whole
  omega

/-- A number of days leads to a year and a place in it. -/
theorem exists_year (n : Int) : ∃ (year : Int) (place : Nat),
    n + epochDays = daysBeforeYear year + place ∧ place < daysOf (monthLengths year) ∧
      ofDayNumber n = ⟨year, (findMonth (monthLengths year) 1 place).1,
        (findMonth (monthLengths year) 1 place).2 + 1⟩ := by
  have bound : ((n + epochDays) % 146097).toNat < 146097 := by omega
  obtain ⟨hcentury, hgroup, hsingle, split, inside⟩ := cycle_split bound
  refine ⟨_, _, ?_, ?_, rfl⟩
  · rw [daysBeforeYear_place _ hcentury hgroup hsingle]
    omega
  · have leap := isLeap_place ((n + epochDays) / 146097) hcentury hgroup hsingle
    rw [daysOf_monthLengths]
    rcases inside with early | ⟨last, leapYear⟩
    · split <;> omega
    · rw [if_pos (leap.2 leapYear)]
      omega

theorem valid_ofDayNumber (n : Int) : (ofDayNumber n).Valid := by
  obtain ⟨year, place, -, inside, eq⟩ := exists_year n
  obtain ⟨i, length, day, month, inMonth, rfl⟩ := Calendar.exists_month inside
  rw [eq, findMonth_of_month 1 month inMonth, Nat.add_comm 1 i]
  exact valid_mk month inMonth

/-- The number of days that leads to a date is the number of the date. -/
theorem dayNumber_ofDayNumber (n : Int) : (ofDayNumber n).dayNumber = n := by
  obtain ⟨year, place, split, inside, eq⟩ := exists_year n
  obtain ⟨i, length, day, month, inMonth, rfl⟩ := Calendar.exists_month inside
  rw [eq, findMonth_of_month 1 month inMonth, Nat.add_comm 1 i, dayNumber_mk]
  omega

/-! ## Counting -/

/-- No two dates of the calendar have the same number. -/
theorem dayNumber_injective (hd : d.Valid) (he : e.Valid) (h : d.dayNumber = e.dayNumber) :
    d = e := by
  obtain ⟨i, day, length, shape, month, inMonth⟩ := hd.exists_month
  obtain ⟨j, day', length', shape', month', inMonth'⟩ := he.exists_month
  have before := place_lt month inMonth
  have before' := place_lt month' inMonth'
  rw [shape, shape', dayNumber_mk, dayNumber_mk] at h
  -- The year that begins later begins after all days of the other one.
  have sameYear : d.year = e.year := by
    rcases Int.lt_trichotomy d.year e.year with earlier | same | later
    · have apart := daysBeforeYear_lt earlier
      omega
    · exact same
    · have apart := daysBeforeYear_lt later
      omega
  rw [sameYear] at month h
  have samePlace : daysOf ((monthLengths e.year).take i) + day =
      daysOf ((monthLengths e.year).take j) + day' := by omega
  have found := findMonth_of_month 1 month inMonth
  rw [samePlace, findMonth_of_month 1 month' inMonth'] at found
  obtain ⟨sameMonth, sameDay⟩ := Prod.mk.inj found
  rw [shape, shape', sameYear, sameDay]
  congr 1
  omega

/-- The ways in which a date is followed by the next one. -/
theorem next_cases (h : d.Valid) : ∃ i day length, d = ⟨d.year, i + 1, day + 1⟩ ∧
    (monthLengths d.year)[i]? = some length ∧
    (day + 1 < length ∧ d.next = ⟨d.year, i + 1, day + 1 + 1⟩ ∨
      day + 1 = length ∧ i < 11 ∧ d.next = ⟨d.year, i + 1 + 1, 0 + 1⟩ ∨
      day + 1 = length ∧ i = 11 ∧ d.next = ⟨d.year + 1, 0 + 1, 0 + 1⟩) := by
  obtain ⟨i, day, length, shape, month, inMonth⟩ := h.exists_month
  refine ⟨i, day, length, shape, month, ?_⟩
  have i_lt : i < 12 := (List.getElem?_eq_some_iff.1 month).1
  have next_eq : d.next = if day + 1 < length then ⟨d.year, i + 1, day + 1 + 1⟩
      else if i + 1 < 12 then ⟨d.year, i + 1 + 1, 1⟩ else ⟨d.year + 1, 1, 1⟩ := by
    rw [next, shape, Nat.add_sub_cancel, month, Option.getD_some]
  rw [next_eq]
  by_cases more : day + 1 < length
  · exact .inl ⟨more, if_pos more⟩
  · rw [if_neg more]
    by_cases inYear : i + 1 < 12
    · exact .inr (.inl ⟨by omega, by omega, if_pos inYear⟩)
    · exact .inr (.inr ⟨by omega, by omega, if_neg inYear⟩)

theorem valid_next (h : d.Valid) : d.next.Valid := by
  obtain ⟨i, day, length, -, month, ⟨more, next⟩ | ⟨-, inYear, next⟩ | ⟨-, -, next⟩⟩ := next_cases h
  · rw [next]
    exact valid_mk month more
  · obtain ⟨length, month, days⟩ := exists_length d.year (i := i + 1) (by omega)
    rw [next]
    exact valid_mk month days
  · obtain ⟨length, month, days⟩ := exists_length (d.year + 1) (i := 0) (by omega)
    rw [next]
    exact valid_mk month days

/-- The day after a date has the next number. -/
theorem dayNumber_next (h : d.Valid) : d.next.dayNumber = d.dayNumber + 1 := by
  obtain ⟨i, day, length, shape, month, ⟨-, next⟩ | ⟨last, -, next⟩ | ⟨last, whole, next⟩⟩ :=
    next_cases h
  all_goals rw [next, dayNumber_mk, congrArg dayNumber shape, dayNumber_mk]
  · omega
  · rw [daysOf_take_succ month]
    omega
  · -- Behind the last month, the days of all months are those of the year.
    subst whole
    have year := daysOf_take_succ month
    rw [List.take_of_length_le (Nat.le_of_eq (length_monthLengths d.year))] at year
    have later := daysBeforeYear_succ d.year
    rw [List.take_zero, daysOf_nil]
    omega

/-- Counting leads to a date exactly if it is one of the calendar with the number that was counted. -/
theorem counted_iff : Counted n d ↔ d.Valid ∧ d.dayNumber = n := by
  constructor
  · intro counted
    induction counted with
    | start => exact ⟨⟨31, rfl, by decide⟩, rfl⟩
    | forwards counted ih => exact ⟨valid_next ih.1, by rw [dayNumber_next ih.1, ih.2]⟩
    | backwards valid counted ih =>
      have behind := dayNumber_next valid
      exact ⟨valid, by omega⟩
  · rintro ⟨valid, number⟩
    induction n generalizing d with
    | zero =>
      have start : Valid ⟨1970, 1, 1⟩ := ⟨31, rfl, by decide⟩
      rw [dayNumber_injective valid start number]
      exact .start
    | succ n ih =>
      -- The date before it is the one that the number before it leads to.
      have before := valid_ofDayNumber n
      have counted := (ih before (dayNumber_ofDayNumber n)).forwards
      have same : d = (ofDayNumber n).next := by
        refine dayNumber_injective valid (valid_next before) ?_
        rw [number, dayNumber_next before, dayNumber_ofDayNumber]
      rwa [same]
    | pred n ih =>
      refine .backwards valid (ih (valid_next valid) ?_)
      rw [dayNumber_next valid, number]
      omega

end Date

end BenchJob.Calendar
