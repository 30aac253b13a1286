import TimeWindow.Proofs.Endpoint.Unambiguous

namespace TimeWindow.Calendar

theorem Date.Valid.le_year_iff {d : Date} (h : d.Valid) {y : Int} :
    y ≤ d.year ↔ daysBeforeYear y ≤ d.dayNumber + 719162 := by
  have year : (Date.ofDayNumber d.dayNumber).year = yearOfDay (d.dayNumber + 719162) := rfl
  rw [Date.ofDayNumber_dayNumber h] at year
  rw [year, le_yearOfDay_iff]

namespace Moment

variable {m : Moment}

/-- From the first millisecond of year -262143 to the last of a leap second at the end of year 262142. -/
def InRange (m : Moment) : Prop := -8334601228800000 ≤ m.epochMillis ∧ m.epochMillis ≤ 8210266876800999

theorem InRange.fits (h : m.InRange) : Word.Fits m.epochMillis := by
  simp only [InRange, Word.Fits, Word.least, Word.greatest] at *
  omega

theorem inRange_of_utc (h : m.Valid) (utc : m.east = 0) : m.InRange := by
  obtain ⟨date, supported, hour, minute, second, milli⟩ := h
  rw [← Date.ofDayNumber_dayNumber date, Date.supported_ofDayNumber_iff] at supported
  simp only [InRange, epochMillis, TimeOfDay.millis, millisPerDay, utc]
  omega

theorem inRange_of_plain_year (h : m.Valid) (year : 0 ≤ m.date.year ∧ m.date.year ≤ 9999)
    (zone : -1440 < m.east ∧ m.east < 1440) : m.InRange := by
  obtain ⟨date, -, hour, minute, second, milli⟩ := h
  have first : daysBeforeYear 0 = -366 := by decide
  have last : daysBeforeYear 10000 = 3652059 := by decide
  have lower := date.le_year_iff (y := 0)
  have upper := date.le_year_iff (y := 10000)
  rw [first] at lower
  rw [last] at upper
  simp only [InRange, epochMillis, TimeOfDay.millis, millisPerDay]
  omega

end Moment

end TimeWindow.Calendar

namespace TimeWindow.Endpoint

open Calendar Text

theorem fractionMillis_eq_floor {digits : List Char} (h : ∀ c ∈ digits, c.isDigit) :
    fractionMillis digits = 1000 * value digits / 10 ^ digits.length := by
  have nothing : value [] = 0 := rfl
  match digits with
  | [] => rfl
  | [a] =>
    simp [fractionMillis, value_cons, nothing]
    omega
  | [a, b] =>
    simp [fractionMillis, value_cons, nothing]
    omega
  | a :: b :: c :: rest =>
    have small : value rest < 10 ^ rest.length := value_lt fun d hd => h d (by simp [hd])
    have front : fractionMillis (a :: b :: c :: rest) = value [a, b, c] := rfl
    have all : value (a :: b :: c :: rest) = 10 ^ rest.length * value [a, b, c] + value rest := value_append [a, b, c] rest
    have length : 10 ^ (a :: b :: c :: rest).length = 1000 * 10 ^ rest.length := by
      rw [List.length_cons, List.length_cons, List.length_cons]
      omega
    rw [front, all, length, Nat.mul_div_mul_left _ _ (by decide), Nat.mul_add_div (Nat.pow_pos (by decide)),
      Nat.div_eq_of_lt small, Nat.add_zero]

/-- The exact instant of a time of day on the day of this number at a place so many minutes ahead of UTC: counted in the
units of the last digit of its fraction and rounded down to milliseconds. -/
def FineTime.epochMillis (t : FineTime) (days east : Int) : Int :=
  let unitsPerSecond : Nat := 10 ^ t.digits.length
  let seconds := 86400 * days + 3600 * t.hour + 60 * t.minute + t.second - 60 * east
  1000 * (seconds * unitsPerSecond + value t.digits) / unitsPerSecond

variable {s y rest : List Char} {d : Date} {t : FineTime} {m : Moment} {east year : Int}

theorem epochMillis_truncate (h : ∀ c ∈ t.digits, c.isDigit) :
    (⟨d, t.truncate, east⟩ : Moment).epochMillis = t.epochMillis d.dayNumber east := by
  have units : ((10 ^ t.digits.length : Nat) : Int) ≠ 0 := Int.natCast_ne_zero.mpr (Nat.pow_pos (by decide)).ne'
  have fraction : (fractionMillis t.digits : Int) = 1000 * value t.digits / (10 ^ t.digits.length : Nat) := by
    rw [fractionMillis_eq_floor h, Int.natCast_ediv, Int.natCast_mul]
    rfl
  rw [FineTime.epochMillis, Int.mul_add, ← Int.mul_assoc, Int.add_comm, Int.add_mul_ediv_right _ _ units, ← fraction]
  simp only [Moment.epochMillis, TimeOfDay.millis, millisPerDay, FineTime.truncate]
  omega

theorem WrittenInstant.isDigit (h : WrittenInstant s d t east) : ∀ c ∈ t.digits, c.isDigit := by
  obtain ⟨_, _, _, digits⟩ := t
  obtain ⟨_, _, _, _, -, -, -, ⟨_, _, _, -, -, -, ws⟩, -⟩ := h.exists_parts
  cases ws with
  | absent => simp
  | present _ wq =>
    cases wq with
    | absent => simp
    | present _ hd => exact hd

theorem WrittenInstant.year_eq (h : WrittenInstant (y ++ '-' :: rest) d t east) (hy : WrittenYear y year) :
    d.year = year := by
  obtain ⟨_, _, _, _, cut, -, ⟨blanks, year', month, day, rfl, hb, wy, -⟩, -⟩ := h.exists_parts
  simp only [List.append_assoc, List.cons_append] at cut
  have hyphen : ∀ t, NoDigitAhead ('-' :: t) := noDigitAhead_cons rfl
  obtain ⟨-, front⟩ := blanks_unambiguous (s := []) (by simp) hb (hy.head_not_blank _) (wy.head_not_blank _) cut
  exact (writtenYear_unambiguous wy hy (hyphen _) (hyphen _) front.symm).2.1

theorem Iso.zoned?_inRange (h : zoned? s = some m) : m.Valid ∧ m.InRange := by
  obtain ⟨date, c, tail, time, zone, east, hd, -, -, hz, hm⟩ := zoned?_eq_some_iff.mp h
  obtain ⟨rfl, valid⟩ := moment?_eq_some_iff.mp hm
  obtain ⟨year, _, _, hy, number, -⟩ := strictDate?_eq_some_iff.mp hd
  obtain ⟨figures, -, rfl⟩ := exists_figures_of_digits? hy
  have four := figures.number_lt
  exact ⟨valid, Moment.inRange_of_plain_year valid (by simp only; omega) (writtenZone_of_zone? hz).bounds⟩

theorem Iso.local?_inRange {time? : Reader TimeOfDay} (h : local? time? s = some m) : m.Valid ∧ m.InRange := by
  obtain ⟨_, _, _, -, -, hm⟩ := local?_eq_some_iff.mp h
  obtain ⟨rfl, valid⟩ := moment?_eq_some_iff.mp hm
  exact ⟨valid, Moment.inRange_of_utc valid rfl⟩

theorem iso?_inRange (h : iso? s = some m) : m.Valid ∧ m.InRange := by
  obtain ⟨-, form, hf, hm⟩ := iso?_eq_some_iff.mp h
  simp only [Iso.forms, List.mem_cons, List.not_mem_nil, or_false] at hf
  obtain rfl | rfl | rfl | rfl := hf
  · exact Iso.zoned?_inRange hm
  · exact Iso.local?_inRange hm
  · exact Iso.local?_inRange hm
  · exact Iso.local?_inRange hm

theorem dateTime?_inRange (h : dateTime? s = some m) : m.Valid ∧ m.InRange := by
  obtain ⟨valid, utc⟩ := valid_of_dateTime? h
  exact ⟨valid, Moment.inRange_of_utc valid utc⟩

theorem offset?_eq_none_of_hyphen_mem_tail (h : '-' ∈ s.tail) : offset? s = none := by
  rw [Option.eq_none_iff_forall_ne_some]
  intro t ht
  obtain ⟨n, unit, digits, u, rfl, -, hd, -, hu⟩ := exists_writtenAgo_of_offset? ht
  simp only [List.tail_cons, List.mem_append, List.mem_singleton] at h
  obtain h | rfl := h
  · exact absurd (hd '-' h) (by decide)
  · simp [units] at hu

theorem ofText?_eq_none_of_year (hy : WrittenYear y year) (unheld : ¬ (-262143 ≤ year ∧ year ≤ 262142)) :
    ofText? (y ++ '-' :: rest) = none := by
  have hyphen : '-' ∈ y ++ '-' :: rest := List.mem_append_right _ List.mem_cons_self
  have late : '-' ∈ (y ++ '-' :: rest).tail := by
    rw [List.tail_append_of_ne_nil hy.ne_nil]
    exact List.mem_append_right _ List.mem_cons_self
  rw [Option.eq_none_iff_forall_ne_some]
  intro e he
  obtain ⟨t, ht, -⟩ | ⟨t, ht, -⟩ | ⟨m, hm, -⟩ | ⟨m, hm, -⟩ := ofText?_eq_some_iff.mp he
  · exact absurd ((epoch?_eq_some_iff.mp ht).2.1 '-' hyphen) (by decide)
  · rw [offset?_eq_none_of_hyphen_mem_tail late] at ht
    cases ht
  · obtain ⟨t, written, -⟩ := iso?_written hm
    exact unheld (written.year_eq hy ▸ (iso?_inRange hm).1.2.1)
  · obtain ⟨t, written, -⟩ := dateTime?_written hm
    exact unheld (written.year_eq hy ▸ (dateTime?_inRange hm).1.2.1)

/-- An instant of the calendar is what its text says and nothing else, exactly and to the millisecond before, and it is
within the years that hold instants.  A text that begins with another year is rejected. -/
theorem calendar_instants_exact_and_in_range (input : String) (clock : Clock) :
    (∀ m, iso? (trim input.toList) = some m ∨ dateTime? (trim input.toList) = some m →
      ∃ v, read input clock = (.ok v, clock) ∧ v.toInt = m.epochMillis ∧
        -8334601228800000 ≤ v.toInt ∧ v.toInt ≤ 8210266876800999 ∧
        (∃ time days, WrittenInstant (trim input.toList) m.date time m.east ∧ m.date.Counted days) ∧
        ∀ date time east days, WrittenInstant (trim input.toList) date time east → date.Counted days →
          v.toInt = time.epochMillis days east) ∧
    ∀ y year rest, WrittenYear y year → trim input.toList = y ++ '-' :: rest →
      ¬ (-262143 ≤ year ∧ year ≤ 262142) →
        read input clock = (.error ⟨String.ofList (trim input.toList), .unrecognized⟩, clock) := by
  constructor
  · intro m taken
    have named : ofText? (trim input.toList) = some (ofMoment m) := by
      rw [ofText?_eq_some_iff]
      obtain hm | hm := taken
      · exact .inr (.inr (.inl ⟨m, hm, rfl⟩))
      · exact .inr (.inr (.inr ⟨m, hm, rfl⟩))
    obtain ⟨valid, bounds⟩ := taken.elim iso?_inRange dateTime?_inRange
    obtain ⟨t, written, truncated⟩ := taken.elim iso?_written dateTime?_written
    have value := Word.toInt_ofInt_of_fits bounds.fits
    refine ⟨Int64.ofInt m.epochMillis, read_of_fixed named, value, by rw [value]; exact bounds.1,
      by rw [value]; exact bounds.2, ⟨t, _, written, Date.counted_dayNumber valid.1⟩, ?_⟩
    intro date time east days other counts
    obtain ⟨rfl, rfl, rfl⟩ := other.unique written
    rw [value, ← (Date.counted_iff.mp counts).2, ← epochMillis_truncate written.isDigit, truncated]
  · intro y year rest hy begins unheld
    exact read_of_none (begins ▸ ofText?_eq_none_of_year hy unheld)

theorem first_and_last_instant_of_the_calendar :
    read "-262143-1-1T0:0" (.fixed 0) = (.ok (-8334601228800000), .fixed 0) ∧
      read "+262142-12-31T23:59:60.9999999999" (.fixed 0) = (.ok 8210266876800999, .fixed 0) ∧
      read "+18446744073709289473-1-1T0:0" (.fixed 0) =
        (.error ⟨"+18446744073709289473-1-1T0:0", .unrecognized⟩, .fixed 0) := by
  have first : iso? (trim "-262143-1-1T0:0".toList) = some ⟨⟨-262143, 1, 1⟩, ⟨0, 0, 0, 0⟩, 0⟩ := by decide
  have last : iso? (trim "+262142-12-31T23:59:60.9999999999".toList) =
      some ⟨⟨262142, 12, 31⟩, ⟨23, 59, 60, 999⟩, 0⟩ := by decide
  have wrapped : WrittenYear "+18446744073709289473".toList (value "18446744073709289473".toList) :=
    .positive (by decide) (List.all_eq_true.mp (by decide))
  refine ⟨?_, ?_, ?_⟩
  · obtain ⟨v, read, value, -⟩ := (calendar_instants_exact_and_in_range "-262143-1-1T0:0" (.fixed 0)).1 _ (.inl first)
    obtain rfl : v = -8334601228800000 := Int64.toInt_inj.mp value
    exact read
  · obtain ⟨v, read, value, -⟩ :=
      (calendar_instants_exact_and_in_range "+262142-12-31T23:59:60.9999999999" (.fixed 0)).1 _ (.inl last)
    obtain rfl : v = 8210266876800999 := Int64.toInt_inj.mp value
    exact read
  · exact (calendar_instants_exact_and_in_range "+18446744073709289473-1-1T0:0" (.fixed 0)).2 _ _ "1-1T0:0".toList wrapped
      (by decide) (by decide)

end TimeWindow.Endpoint
