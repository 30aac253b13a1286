import TimeWindow.Proofs.Calendar.Succession
import TimeWindow.Proofs.Endpoint.Figures

namespace TimeWindow.Endpoint

open Calendar Text

structure Civil (d : DateFigures) (t : TimeFigures) : Prop where
  month : 1 ≤ d.month.number ∧ d.month.number ≤ 12
  day : 1 ≤ d.day.number ∧ d.day.number ≤ daysInMonth d.year.number d.month.number
  hour : t.hour.number ≤ 23
  minute : t.minute.number ≤ 59
  second : t.secondNumber ≤ 60

def momentOf (d : DateFigures) (t : TimeFigures) (milli : Nat) (east : Int) : Moment :=
  ⟨d.date, { t.time with milli }, east⟩

section

variable {d : DateFigures} {t : TimeFigures} {milli : Nat} {east : Int} {m : Moment} {s : List Char}

theorem Civil.valid (h : Civil d t) (hm : milli ≤ 999) : (momentOf d t milli east).Valid :=
  ⟨h.day, d.supported_date, h.hour, h.minute, h.second, hm⟩

theorem civil_of_valid (h : (momentOf d t milli east).Valid) : Civil d t := by
  obtain ⟨date, -, hour, minute, second, -⟩ := h
  have month : d.month.number ≤ 12 := date.month_le_and_day_le.1
  obtain ⟨m, _, hd, -⟩ := date.exists_eq
  have number : d.month.number = m + 1 := congrArg Date.month hd
  exact ⟨⟨by omega, month⟩, date, hour, minute, second⟩

theorem moment?_eq_some_iff {date : Date} {time : TimeOfDay} :
    moment? date time east = some m ↔ m = ⟨date, time, east⟩ ∧ m.Valid := by
  simp only [moment?, Option.ite_none_right_eq_some, Option.some.injEq]
  constructor
  · rintro ⟨valid, rfl⟩
    exact ⟨rfl, valid⟩
  · rintro ⟨rfl, valid⟩
    exact ⟨valid, rfl⟩

theorem moment?_of_civil (h : Civil d t) (hm : milli ≤ 999) :
    moment? d.date { t.time with milli } east = some (momentOf d t milli east) := if_pos (h.valid hm)

theorem moment?_of_not_civil (h : ¬ Civil d t) : moment? d.date { t.time with milli } east = none :=
  if_neg fun valid => h (civil_of_valid valid)

theorem fits_epochMillis (h : m.Valid) (he : -1440 < m.east ∧ m.east < 1440) : Word.Fits m.epochMillis := by
  obtain ⟨date, supported, hour, minute, second, milli⟩ := h
  rw [← Date.ofDayNumber_dayNumber date, Date.supported_ofDayNumber_iff] at supported
  simp only [Moment.epochMillis, TimeOfDay.millis, millisPerDay, Word.Fits, Word.least, Word.greatest]
  omega

theorem ofText?_of_colon_mem (h : ':' ∈ s) : ofText? s = (iso? s <|> dateTime? s).map ofMoment := by
  have epoch : epoch? s = none := by
    rw [Option.eq_none_iff_forall_ne_some]
    intro t ht
    exact absurd ((epoch?_eq_some_iff.mp ht).2.1 ':' h) (by decide)
  have offset : offset? s = none := by
    rw [Option.eq_none_iff_forall_ne_some]
    intro t ht
    obtain ⟨n, unit, written⟩ := exists_writtenAgo_of_offset? ht
    exact not_mem_of_writtenAgo written (.inl rfl) h
  simp only [ofText?, epoch, offset]
  cases iso? s <;> rfl

theorem read_instant (trimmed : trim s = s) (h : ofText? s = some (ofMoment m)) (clock : Clock) :
    read (String.ofList s) clock = (.ok (Int64.ofInt m.epochMillis), clock) := by
  refine read_of_fixed ?_
  rw [String.toList_ofList, trimmed]
  exact h

theorem read_of_moment (trimmed : trim s = s) (h : ofText? s = some (ofMoment m)) (hv : m.Valid)
    (he : -1440 < m.east ∧ m.east < 1440) (clock : Clock) :
    ∃ v, read (String.ofList s) clock = (.ok v, clock) ∧ v.toInt = m.epochMillis :=
  ⟨_, read_instant trimmed h clock, Word.toInt_ofInt_of_fits (fits_epochMillis hv he)⟩

theorem read_unrecognized (trimmed : trim s = s) (h : ofText? s = none) (clock : Clock) :
    read (String.ofList s) clock = (.error ⟨String.ofList s, .unrecognized⟩, clock) := by
  have named : ofText? (trim (String.ofList s).toList) = none := by rwa [String.toList_ofList, trimmed]
  rw [read_of_none named, String.toList_ofList, trimmed]

theorem trim_date_append (d : DateFigures) (c : Char) {rest : List Char} (h : ∀ c ∈ rest, IsInstantChar c)
    (hn : rest ≠ []) : trim (d.text ++ c :: rest) = d.text ++ c :: rest :=
  (trim_append_cons_iff d.text_ne_nil hn c).mpr
    ⟨fun c hc => (d.isInstantChar c (List.mem_of_mem_head? hc)).isBlank_eq_false,
      fun c hc => (h c (List.mem_of_getLast? hc)).isBlank_eq_false⟩

end

theorem dateTime?_text (d : DateFigures) (t : TimeFigures) :
    dateTime? (d.text ++ ':' :: t.text) = moment? d.date t.time 0 := by
  have cut : cut? 10 (d.text ++ ':' :: t.text) = some (d.text, ':' :: t.text) :=
    cut?_eq_some_iff.mpr ⟨rfl, d.byteSize_text⟩
  have date : Reader.whole date? d.text = some d.date :=
    Reader.whole_eq_some_iff.mpr (by simpa using d.date?_append [])
  simp only [dateTime?, cut, date, skip?, Option.bind_eq_bind, Option.bind_some, if_true]
  obtain ⟨size, time⟩ | ⟨size, time⟩ := t.read_whole
  · rw [if_pos size, Reader.whole_eq_some_iff.mpr time, Option.bind_some]
  · rw [if_neg (by omega), if_pos size, Reader.whole_eq_some_iff.mpr time, Option.bind_some]

theorem ofText?_dateTime (d : DateFigures) (t : TimeFigures) :
    ofText? (d.text ++ ':' :: t.text) = (moment? d.date t.time 0).map ofMoment := by
  have colon : ':' ∈ d.text ++ ':' :: t.text := List.mem_append_right _ List.mem_cons_self
  have chars : ∀ c ∈ d.text ++ ':' :: t.text, IsInstantChar c :=
    List.forall_mem_append.mpr ⟨d.isInstantChar, List.forall_mem_cons.mpr ⟨by decide, t.isInstantChar⟩⟩
  have noLetter : 'T' ∉ d.text ++ ':' :: t.text := fun h => absurd (chars _ h) (by decide)
  rw [ofText?_of_colon_mem colon, iso?, if_neg noLetter, dateTime?_text]
  rfl

/-- Wherever there is such a day and such a time of day, and nowhere else, a date, a colon and a time of day are an
instant: the days counted from 1970 on and the seconds of the day. -/
theorem dateTime_counts_days (d : DateFigures) (t : TimeFigures) (clock : Clock) :
    (Civil d t → ∃ n v, d.date.Counted n ∧ (∀ k, d.date.Counted k → k = n) ∧
      read (String.ofList (d.text ++ ':' :: t.text)) clock = (.ok v, clock) ∧
      v.toInt = 1000 * (86400 * n + 3600 * t.hour.number + 60 * t.minute.number + t.secondNumber)) ∧
    (¬ Civil d t → read (String.ofList (d.text ++ ':' :: t.text)) clock =
      (.error ⟨String.ofList (d.text ++ ':' :: t.text), .unrecognized⟩, clock)) ∧
    (∀ year, (List.range' 1 12).map (daysInMonth year) =
      [31, if (4 ∣ year ∧ ¬ 100 ∣ year) ∨ 400 ∣ year then 29 else 28, 31, 30, 31, 30, 31, 31, 30, 31, 30, 31]) ∧
    "Unrecognized format".toList <+: Fault.unrecognized.reason.toList := by
  have trimmed := trim_date_append d ':' t.isInstantChar t.text_ne_nil
  have named := ofText?_dateTime d t
  refine ⟨?_, ?_, daysInMonth_eq, by decide +kernel⟩
  · intro h
    have moment : moment? d.date t.time 0 = some (momentOf d t 0 0) := moment?_of_civil h (Nat.zero_le _)
    have valid : d.date.Valid := h.day
    rw [moment] at named
    have inUTC : -1440 < (0 : Int) ∧ (0 : Int) < 1440 := by decide
    obtain ⟨v, read, value⟩ := read_of_moment trimmed named (h.valid (Nat.zero_le _)) inUTC clock
    refine ⟨d.date.dayNumber, v, Date.counted_dayNumber valid, ?_, read, ?_⟩
    · intro k hk
      exact (Date.counted_iff.mp hk).2.symm
    · rw [value]
      simp only [Moment.epochMillis, momentOf, TimeFigures.time, TimeOfDay.millis, millisPerDay]
      omega
  · intro h
    have moment : moment? d.date t.time 0 = none := moment?_of_not_civil h
    rw [moment] at named
    exact read_unrecognized trimmed named clock

theorem leap_day_of_year_zero :
    (∃ v, read "0000-02-29:23:59:60" (.fixed 0) = (.ok v, .fixed 0) ∧ v.toInt = -62162035200000) ∧
      read "1900-02-29:00:00" (.fixed 0) = (.error ⟨"1900-02-29:00:00", .unrecognized⟩, .fixed 0) := by
  constructor
  · obtain ⟨n, v, counted, -, read, value⟩ := (dateTime_counts_days
      ⟨⟨"0000".toList, rfl, rfl⟩, ⟨"02".toList, rfl, rfl⟩, ⟨"29".toList, rfl, rfl⟩⟩
      ⟨⟨"23".toList, rfl, rfl⟩, ⟨"59".toList, rfl, rfl⟩, some ⟨"60".toList, rfl, rfl⟩⟩
      (.fixed 0)).1 ⟨by decide, by decide, by decide, by decide, by decide⟩
    have days : n = -719469 := (Date.counted_iff.mp counted).2.symm
    rw [days] at value
    exact ⟨v, read, value⟩
  · exact (dateTime_counts_days
      ⟨⟨"1900".toList, rfl, rfl⟩, ⟨"02".toList, rfl, rfl⟩, ⟨"29".toList, rfl, rfl⟩⟩
      ⟨⟨"00".toList, rfl, rfl⟩, ⟨"00".toList, rfl, rfl⟩, none⟩
      (.fixed 0)).2.1 fun h => absurd h.day (by decide)

end TimeWindow.Endpoint
