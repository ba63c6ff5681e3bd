/-!
# Civil dates

Seconds since 1970-01-01T00:00:00Z are turned into a date and a time of day in the proleptic
Gregorian calendar, in which every year divisible by 4 is a leap year, except those divisible by
100 and not by 400, also before the calendar's introduction and before year 1.

The calendar repeats after 400 years, which have 146097 days. A day is located in its cycle, then in
its century, its group of four years and its year. Only the last century of a cycle and the last
year of a group are a day longer than the others, which is why the quotients are capped at 3.

## Main definitions

- `Date.ofDayNumber`, `Date.dayNumber`: a date and its number of days since 1970-01-01.
- `Moment.ofSeconds`, `Moment.seconds`: a date with a time of day and its number of seconds.
- `timestampText`: the text of a moment, for the seconds that have one.
-/

namespace BenchJob.Calendar

def isLeap (year : Int) : Bool := year % 4 == 0 && (year % 100 != 0 || year % 400 == 0)

def monthLengths (year : Int) : List Nat :=
  [31, if isLeap year then 29 else 28, 31, 30, 31, 30, 31, 31, 30, 31, 30, 31]

/-- A day of the calendar; months and days count from one. -/
structure Date where
  year : Int
  month : Nat
  day : Nat
  deriving Repr, DecidableEq

/-- The days from 0001-01-01 to the first day of a year. -/
def daysBeforeYear (year : Int) : Int :=
  365 * (year - 1) + (year - 1) / 4 - (year - 1) / 100 + (year - 1) / 400

def epochDays : Int := 719162

def daysOf (lengths : List Nat) : Nat := lengths.foldl (· + ·) 0

/-- The days from 1970-01-01 to a date. -/
def Date.dayNumber (d : Date) : Int :=
  daysBeforeYear d.year + daysOf ((monthLengths d.year).take (d.month - 1)) + (d.day - 1) -
    epochDays

def Date.Valid (d : Date) : Prop :=
  ∃ length, (monthLengths d.year)[d.month - 1]? = some length ∧
    1 ≤ d.month ∧ 1 ≤ d.day ∧ d.day ≤ length

/-- The month in which a day lies, counted from `month`, and its place in that month. -/
def findMonth : List Nat → Nat → Nat → Nat × Nat
  | [], month, day => (month, day)
  | length :: rest, month, day =>
    if day < length then (month, day) else findMonth rest (month + 1) (day - length)

def Date.ofDayNumber (n : Int) : Date :=
  let days := n + epochDays
  let cycle := days / 146097
  let inCycle := (days % 146097).toNat
  let century := min (inCycle / 36524) 3
  let inCentury := inCycle - 36524 * century
  let group := inCentury / 1461
  let inGroup := inCentury % 1461
  let single := min (inGroup / 365) 3
  let inYear := inGroup - 365 * single
  let year : Int := 400 * cycle + 100 * century + 4 * group + single + 1
  let (month, day) := findMonth (monthLengths year) 1 inYear
  ⟨year, month, day + 1⟩

structure Moment where
  date : Date
  hour : Nat
  minute : Nat
  second : Nat
  deriving Repr, DecidableEq

def Moment.ofSeconds (s : Int) : Moment :=
  let inDay := (s % 86400).toNat
  ⟨Date.ofDayNumber (s / 86400), inDay / 3600, inDay / 60 % 60, inDay % 60⟩

/-- The seconds from 1970-01-01T00:00:00Z to a moment. -/
def Moment.seconds (m : Moment) : Int :=
  86400 * m.date.dayNumber + 3600 * m.hour + 60 * m.minute + m.second

def padded (length n : Nat) : List Char :=
  let digits := Nat.toDigits 10 n
  List.replicate (length - digits.length) '0' ++ digits

/-- The characters of a year: four digits, or a sign and at least four digits outside 0 to 9999. -/
def yearChars (year : Int) : List Char :=
  if 0 ≤ year ∧ year ≤ 9999 then padded 4 year.toNat
  else (if year < 0 then '-' else '+') :: padded 4 year.natAbs

def Moment.chars (m : Moment) : List Char :=
  yearChars m.date.year ++ '-' :: padded 2 m.date.month ++ '-' :: padded 2 m.date.day ++
    'T' :: padded 2 m.hour ++ ':' :: padded 2 m.minute ++ ':' :: padded 2 m.second ++
    "+00:00".toList

/-- The seconds that have a text: those of the years -262143 to 262142. -/
def hasText (s : Int) : Bool := -8334601228800 ≤ s && s ≤ 8210266876799

/-- The text of the moment that lies `s` seconds after 1970-01-01T00:00:00Z, if it has one. -/
def timestampText (s : Int) : Option String :=
  if hasText s then some (String.ofList (Moment.ofSeconds s).chars) else none

end BenchJob.Calendar
