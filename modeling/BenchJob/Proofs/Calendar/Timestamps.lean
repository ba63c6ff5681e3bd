import BenchJob.Proofs.Calendar.Dates
import BenchJob.Proofs.Json.Numbers
import BenchJob.Proofs.Terminal
import BenchJob.Proofs.Text.Integer

/-!
# Timestamps as civil dates

A timestamp is a number of seconds, and its text is a date with a time of day. The date is the one to
which counting the days from 1970-01-01 leads, and days, hours, minutes and seconds add up to the
timestamp again, also before 1970, where the time of day still counts forwards. Every field has a
fixed number of digits but the year, which outside of 0 to 9999 has a sign and may be longer.

Reports show the text beside the timestamp, for the timestamps of the years that have one.

## Main definitions

- `Moment.Valid`: a date of the calendar with a time of day.
- `WritesIn`, `WritesYear`, `Moment.Writes`: what a text says about a moment.
- `Json.Dates`: data show a timestamp, and its text if it has one.

## Main statements

- `Moment.seconds_ofSeconds`, `Moment.valid_ofSeconds`: seconds lead to a moment and back.
- `Moment.writes_chars`: what the text of a moment says.
- `dates_of_report`: what every report shows.
- `timestamps_denote`: which timestamps have a text, what it says, and where it is shown.
-/

namespace BenchJob

namespace Calendar

open Text.Integer (IsNumber value)

/-! ## Moments -/

structure Moment.Valid (m : Moment) : Prop where
  date : m.date.Valid
  hour : m.hour < 24
  minute : m.minute < 60
  second : m.second < 60

namespace Moment

theorem valid_ofSeconds (s : Int) : (ofSeconds s).Valid where
  date := Date.valid_ofDayNumber _
  hour := by
    simp only [ofSeconds]
    omega
  minute := Nat.mod_lt _ (by decide)
  second := Nat.mod_lt _ (by decide)

/-- The days of a moment are whole days behind each other, and the time of day is what is left. -/
theorem seconds_ofSeconds (s : Int) : (ofSeconds s).seconds = s := by
  simp only [seconds, ofSeconds, Date.dayNumber_ofDayNumber]
  omega

/-- Counting leads to the date of a moment. -/
theorem Valid.counted_date {m : Moment} (valid : m.Valid) : m.date.Counted m.date.dayNumber :=
  Date.counted_iff.2 ⟨valid.date, rfl⟩

end Moment

/-! ## Texts -/

/-- The text writes the number with so many decimal digits. -/
structure WritesIn (width : Nat) (text : List Char) (n : Nat) : Prop where
  length : text.length = width
  digits : ∀ c ∈ text, c.isDigit = true
  value : value text = n

/-- The text writes the year: with four digits from 0 to 9999, and otherwise with a sign and with four
digits or, if four are too few, with as many as it takes. -/
inductive WritesYear : List Char → Int → Prop where
  | four {digits : List Char} {n : Nat} (h : WritesIn 4 digits n) : WritesYear digits n
  | after {digits : List Char} {n width : Nat} (h : WritesIn width digits n) (late : 9999 < n)
      (unpadded : digits.head? ≠ some '0') : WritesYear ('+' :: digits) n
  | before {digits : List Char} {n width : Nat} (h : WritesIn width digits n) (early : 0 < n)
      (padded : width = 4 ∨ 4 < width ∧ digits.head? ≠ some '0') : WritesYear ('-' :: digits) (-n)

/-- The text says the moment: the year, month and day of the date, and hour, minute and second in
universal time. -/
def Moment.Writes (m : Moment) (text : List Char) : Prop :=
  ∃ year month day hour minute second,
    text = year ++ '-' :: month ++ '-' :: day ++ 'T' :: hour ++ ':' :: minute ++ ':' :: second ++
      "+00:00".toList ∧
    WritesYear year m.date.year ∧ WritesIn 2 month m.date.month ∧ WritesIn 2 day m.date.day ∧
    WritesIn 2 hour m.hour ∧ WritesIn 2 minute m.minute ∧ WritesIn 2 second m.second

/-- Zeros in front do not change the value of digits. -/
theorem value_replicate_zero (count : Nat) (digits : List Char) :
    value (List.replicate count '0' ++ digits) = value digits := by
  simp [value, Nat.ofDigits_append_replicate_zero]

theorem length_padded (width n : Nat) :
    (padded width n).length = max width (Nat.toDigits 10 n).length := by
  simp only [padded, List.length_append, List.length_replicate]
  omega

theorem digits_padded (width n : Nat) : ∀ c ∈ padded width n, c.isDigit = true := by
  intro c mem
  rcases List.mem_append.1 mem with zero | digit
  · rw [List.eq_of_mem_replicate zero]
    rfl
  · exact (Text.Integer.isNumber_toDigits n).2 c digit

theorem value_padded (width n : Nat) : value (padded width n) = n := by
  rw [padded, value_replicate_zero, Text.Integer.value_toDigits]

theorem writesIn_padded (width n : Nat) :
    WritesIn (max width (Nat.toDigits 10 n).length) (padded width n) n :=
  ⟨length_padded width n, digits_padded width n, value_padded width n⟩

/-- A number that is small enough is written with exactly so many digits. -/
theorem writesIn_padded_of_lt {width n : Nat} (pos : 0 < width) (h : n < 10 ^ width) :
    WritesIn width (padded width n) n := by
  have short := (Nat.length_toDigits_le_iff (by decide) pos).2 h
  have written := writesIn_padded width n
  rwa [Nat.max_eq_left short] at written

/-- A number that is too large for the width is written without zeros in front. -/
theorem head_padded {width n : Nat} (pos : 0 < width) (h : width < (Nat.toDigits 10 n).length) :
    (padded width n).head? ≠ some '0' := by
  have unpadded : padded width n = Nat.toDigits 10 n := by
    simp [padded, Nat.sub_eq_zero_of_le (Nat.le_of_lt h)]
  intro zero
  rw [unpadded] at zero
  obtain ⟨rest, digits⟩ := List.head?_eq_some_iff.1 zero
  rw [Json.eq_zero_of_toDigits_eq_zero_cons digits, Nat.toDigits_zero] at h
  simp only [List.length_singleton] at h
  omega

theorem writesYear_yearChars (year : Int) : WritesYear (yearChars year) year := by
  unfold yearChars
  split
  · rename_i near
    obtain ⟨n, rfl⟩ := Int.eq_ofNat_of_zero_le near.1
    exact .four (writesIn_padded_of_lt (by decide) (by omega))
  · rename_i far
    have short : (Nat.toDigits 10 year.natAbs).length ≤ 4 ↔ year.natAbs < 10000 :=
      Nat.length_toDigits_le_iff (by decide) (by decide)
    have written := writesIn_padded 4 year.natAbs
    have unpadded : 4 < (Nat.toDigits 10 year.natAbs).length →
        (padded 4 year.natAbs).head? ≠ some '0' := head_padded (by decide)
    split
    · rename_i early
      have padding : max 4 (Nat.toDigits 10 year.natAbs).length = 4 ∨
          4 < max 4 (Nat.toDigits 10 year.natAbs).length ∧
            (padded 4 year.natAbs).head? ≠ some '0' := by
        by_cases long : 4 < (Nat.toDigits 10 year.natAbs).length
        · exact .inr ⟨by omega, unpadded long⟩
        · exact .inl (by omega)
      have whole := WritesYear.before written (by omega) padding
      rwa [show -(year.natAbs : Int) = year by omega] at whole
    · have whole := WritesYear.after written (by omega) (unpadded (by omega))
      rwa [show (year.natAbs : Int) = year by omega] at whole

/-- The characters of a moment say it. -/
theorem Moment.writes_chars {m : Moment} (valid : m.Valid) : m.Writes m.chars := by
  have two : ∀ n, n < 100 → WritesIn 2 (padded 2 n) n :=
    fun n small => writesIn_padded_of_lt (by decide) small
  have month := valid.date.month_le
  have day := valid.date.day_le
  have hour := valid.hour
  have minute := valid.minute
  have second := valid.second
  exact ⟨_, _, _, _, _, _, rfl, writesYear_yearChars _, two _ (by omega), two _ (by omega),
    two _ (by omega), two _ (by omega), two _ (by omega)⟩

theorem hasText_iff {s : Int} :
    hasText s = true ↔ -8334601228800 ≤ s ∧ s ≤ 8210266876799 := by
  rw [hasText, Bool.and_eq_true, decide_eq_true_iff, decide_eq_true_iff]

/-- The timestamps that have a text, and their texts. -/
theorem timestampText_eq_some_iff {s : Int} {text : String} : timestampText s = some text ↔
    (-8334601228800 ≤ s ∧ s ≤ 8210266876799) ∧ text = String.ofList (Moment.ofSeconds s).chars := by
  rw [← hasText_iff, timestampText]
  cases hasText s <;> simp [eq_comm]

theorem timestampText_eq_none_iff {s : Int} :
    timestampText s = none ↔ s < -8334601228800 ∨ 8210266876799 < s := by
  rw [timestampText]
  split
  · rename_i within
    rw [hasText_iff] at within
    simp
    omega
  · rename_i without
    rw [hasText_iff] at without
    simp
    omega

end Calendar

open Calendar (timestampText)

/-! ## Reports -/

/-- The data show a timestamp if there is one, and its text beside it if it has one. -/
structure Json.Dates (data : Json) (timestamp : Option Int) : Prop where
  seconds : data.member? "commit_timestamp" = timestamp.map .int
  text : data.member? "committed_at" = (timestamp.bind timestampText).map .str

namespace Json.Dates

variable {data date : Json} {timestamp : Option Int}

/-- The text is shown exactly beside a timestamp that has it. -/
theorem text_eq_some_iff (h : data.Dates timestamp) :
    data.member? "committed_at" = some date ↔ ∃ s text,
      data.member? "commit_timestamp" = some (.int s) ∧ timestampText s = some text ∧
        date = .str text := by
  simp only [h.seconds, h.text, Option.map_eq_some_iff, Option.bind_eq_some_iff]
  constructor
  · rintro ⟨text, ⟨s, rfl, written⟩, rfl⟩
    exact ⟨s, text, ⟨s, rfl, rfl⟩, written, rfl⟩
  · rintro ⟨s, text, ⟨s', rfl, same⟩, written, rfl⟩
    obtain rfl := Json.int.inj same
    exact ⟨text, ⟨s', rfl, written⟩, rfl⟩

/-- Where the data have the fields of an invocation, and no others under the two keys, they show the
time of its recording. -/
theorem of_invocation {front : List (String × Option Json)} {i : Invocation}
    (h : data.Shows (front ++ i.fields)) (seconds : front.lookup "commit_timestamp" = none)
    (text : front.lookup "committed_at" = none) :
    data.Dates (i.recording.map (·.timestamp)) where
  seconds := by
    rw [h.member?_eq, List.lookup_append, seconds]
    cases recorded : i.recording <;> simp [Invocation.fields, lookup_cons_ite, recorded]
  text := by
    rw [h.member?_eq, List.lookup_append, text]
    cases recorded : i.recording <;> simp [Invocation.fields, lookup_cons_ite, recorded]

end Json.Dates

/-- The data of a plan show the time of its recording. -/
theorem PlanReport.dates (r : PlanReport) :
    r.toJson.sorted.Dates (r.invocation.recording.map (·.timestamp)) :=
  .of_invocation r.shows_fields (by simp [Json.lookup_cons_ite]) (by simp [Json.lookup_cons_ite])

/-- The data of a run show the time of its recording. -/
theorem RunReport.dates (r : RunReport) :
    r.toJson.sorted.Dates (r.plan.invocation.recording.map (·.timestamp)) := by
  have shown := r.shows_fields
  rw [fields, PlanReport.fields, ← List.append_assoc] at shown
  exact .of_invocation shown (by simp [Json.lookup_cons_ite]) (by simp [Json.lookup_cons_ite])

/-- Data in an envelope are what the command came to. -/
theorem Execution.data_envelope {e : Execution} {data : Json}
    (h : e.envelope.member? "data" = some data) :
    ∃ payload, e.answer.result = .ok payload ∧ data = payload.sorted := by
  unfold envelope at h
  cases result : e.answer.result with
  | error f => simp [result, Envelope.value, Json.member?] at h
  | ok payload =>
    refine ⟨payload, rfl, ?_⟩
    simpa [result, Envelope.value, Json.member?, eq_comm] using h

section

variable {w : World} {sink : Sink} {c : Command} {data : Json}

/-- Where a command comes to a report, the data are those of the report. -/
theorem report_of_data {α : Type} {r : Except Failure α} {t : Log} {toJson : α → Json}
    {code : α → Int}
    (leaves : (c.data w).Leaves (r.map fun report => (toJson report, code report)) t)
    (shown : (execute w sink c).envelope.member? "data" = some data) :
    ∃ report, r = .ok report ∧ data = (toJson report).sorted := by
  obtain ⟨payload, answered, rfl⟩ := Execution.data_envelope shown
  rw [(execute_eq leaves sink).1, Answer.result_ofResult] at answered
  obtain ⟨coded, came, rfl⟩ := ok_of_map_eq_ok answered
  obtain ⟨report, reported, rfl⟩ := ok_of_map_eq_ok came
  exact ⟨report, reported, rfl⟩

/-- The data of every run and of every plan show a timestamp in this way, or none. -/
theorem dates_of_report {o : StepOptions} (reports : c = .run o ∨ c = .plan o)
    (shown : (execute w sink c).envelope.member? "data" = some data) :
    ∃ timestamp, data.Dates timestamp := by
  rcases reports with rfl | rfl
  · obtain ⟨result, trace, -, run⟩ := runJob_leaves w o
    obtain ⟨report, -, rfl⟩ := report_of_data (data_run_leaves run) shown
    exact ⟨_, report.dates⟩
  · obtain ⟨report, -, rfl⟩ := report_of_data (data_plan_leaves (planJob_self w o)) shown
    exact ⟨_, report.dates⟩

end

/-- Exactly the timestamps within the bounds have a text. It says a date of the calendar with a time
of day, and the days that lead to the date when they are counted one by one from 1970-01-01 add up to
the timestamp with the time of day. A plan or the report of a run shows a text exactly if it shows a
timestamp that has one, and then it shows the text of this timestamp. -/
theorem timestamps_denote :
    (∀ s, timestampText s = none ↔ s < -8334601228800 ∨ 8210266876799 < s) ∧
    (∀ s text, timestampText s = some text → ∃ (m : Calendar.Moment) (days : Int),
      m.Writes text.toList ∧ m.Valid ∧ m.date.Counted days ∧
      86400 * days + 3600 * m.hour + 60 * m.minute + m.second = s) ∧
    ∀ (w : World) (sink : Sink) (o : StepOptions) (c : Command) (data : Json),
      c = .run o ∨ c = .plan o → (execute w sink c).envelope.member? "data" = some data →
      ((∃ date, data.member? "committed_at" = some date) ↔ ∃ s,
        data.member? "commit_timestamp" = some (.int s) ∧
        -8334601228800 ≤ s ∧ s ≤ 8210266876799) ∧
      ∀ date, data.member? "committed_at" = some date → ∃ s text,
        data.member? "commit_timestamp" = some (.int s) ∧ timestampText s = some text ∧
        date = .str text := by
  refine ⟨fun s => Calendar.timestampText_eq_none_iff, ?_, ?_⟩
  · intro s text written
    obtain ⟨-, rfl⟩ := Calendar.timestampText_eq_some_iff.1 written
    have valid := Calendar.Moment.valid_ofSeconds s
    refine ⟨.ofSeconds s, _, ?_, valid, valid.counted_date, Calendar.Moment.seconds_ofSeconds s⟩
    rw [String.toList_ofList]
    exact Calendar.Moment.writes_chars valid
  · intro w sink o c data reports shown
    obtain ⟨timestamp, dates⟩ := dates_of_report reports shown
    refine ⟨?_, fun date => dates.text_eq_some_iff.1⟩
    simp only [dates.text_eq_some_iff]
    constructor
    · rintro ⟨date, s, text, seconds, written, rfl⟩
      exact ⟨s, seconds, (Calendar.timestampText_eq_some_iff.1 written).1⟩
    · rintro ⟨s, seconds, within⟩
      exact ⟨_, s, _, seconds, Calendar.timestampText_eq_some_iff.2 ⟨within, rfl⟩, rfl⟩

/-- The second before 1970, a leap day that only every fourth century has, and the second before the
year 0. -/
example : timestampText (-1) = some "1969-12-31T23:59:59+00:00" ∧
    timestampText 951782400 = some "2000-02-29T00:00:00+00:00" ∧
    timestampText (-62167219201) = some "-0001-12-31T23:59:59+00:00" :=
  ⟨rfl, rfl, rfl⟩

/-- The sample plan has the time that the version control program prints. -/
theorem Sample.dates_plan : ∃ data,
    (execute machine .writable (.plan options)).envelope.member? "data" = some data ∧
      data.Dates (some 1406721715) := by
  obtain ⟨s, resolved⟩ : ∃ s, (file.merge options.flags).resolve machine.home = .ok s := ⟨_, rfl⟩
  have settings : (settingsOf machine options).result = .ok s :=
    result_settingsOf_eq_ok_iff.2 ⟨_, layers options.flags, resolved⟩
  have answer : Commit.answer machine s.repoDir = .ok 1406721715 := by
    obtain rfl := Except.ok.inj resolved
    exact eq_ok_of_toOption rfl
  have assembled : s.assembled machine =
      .ok (s.job.assemble (some (s.job.recordingAt 1406721715))) := by
    obtain rfl := Except.ok.inj resolved
    rw [Settings.assembled, answer]
    rfl
  have planned := planJob_of_settled settings
  rw [assembled] at planned
  refine ⟨_, ?_, (s.planReport (s.job.assemble (some (s.job.recordingAt 1406721715)))).dates⟩
  rw [Execution.envelope, (execute_eq (data_plan_leaves planned) .writable).1]
  rfl

/-- A leap day has a text, and the sample plan shows the text of its commit. -/
theorem sample_timestamps_denote :
    (∃ (m : Calendar.Moment) (days : Int), m.Writes "2000-02-29T00:00:00+00:00".toList ∧ m.Valid ∧
      m.date.Counted days ∧
      86400 * days + 3600 * m.hour + 60 * m.minute + m.second = 951782400) ∧
    ∃ data, (execute Sample.machine .writable (.plan Sample.options)).envelope.member? "data" =
        some data ∧ ∃ date, data.member? "committed_at" = some date := by
  obtain ⟨-, denotes, shows⟩ := timestamps_denote
  obtain ⟨data, shown, dates⟩ := Sample.dates_plan
  refine ⟨denotes 951782400 _ rfl, data, shown, ?_⟩
  exact (shows _ _ _ _ data (.inr rfl) shown).1.2 ⟨1406721715, dates.seconds, by decide⟩

end BenchJob
