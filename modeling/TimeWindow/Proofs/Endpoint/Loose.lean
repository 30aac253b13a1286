import TimeWindow.Proofs.Endpoint.Separator
import TimeWindow.Proofs.Endpoint.Tail

/-! Instants as loosely as they may be written: a sign and any digits for a year, blanks before a number and one or two
digits, a fraction of any length.  Every form of the calendar takes texts that are written so, and no others. -/

namespace TimeWindow.Endpoint

open Calendar Text

variable {s rest taken : List Char}

def Reader.Takes {α : Type} (read : Reader α) (written : List Char → α → Prop) : Prop :=
  ∀ ⦃s a rest⦄, read s = some (a, rest) → ∃ taken, s = taken ++ rest ∧ written taken a

def WrittenNumber (s : List Char) (n : Nat) : Prop :=
  ∃ blanks digits, s = blanks ++ digits ∧ (∀ c ∈ blanks, isBlank c) ∧ digits ≠ [] ∧ digits.length ≤ 2 ∧
    (∀ c ∈ digits, c.isDigit) ∧ value digits = n

inductive WrittenYear : List Char → Int → Prop
  | unsigned {digits : List Char} : digits ≠ [] → (∀ c ∈ digits, c.isDigit) → WrittenYear digits (value digits)
  | positive {digits : List Char} : digits ≠ [] → (∀ c ∈ digits, c.isDigit) →
      WrittenYear ('+' :: digits) (value digits)
  | negative {digits : List Char} : digits ≠ [] → (∀ c ∈ digits, c.isDigit) →
      WrittenYear ('-' :: digits) (-value digits)

theorem WrittenYear.ne_nil {year : Int} (h : WrittenYear s year) : s ≠ [] := by
  cases h with
  | unsigned hn => exact hn
  | positive => exact List.cons_ne_nil _ _
  | negative => exact List.cons_ne_nil _ _

def WrittenDate (s : List Char) (d : Date) : Prop :=
  ∃ blanks year month day, s = blanks ++ (year ++ '-' :: (month ++ '-' :: day)) ∧ (∀ c ∈ blanks, isBlank c) ∧
    WrittenYear year d.year ∧ WrittenNumber month d.month ∧ WrittenNumber day d.day

theorem exists_digits_of_upTo? {most n : Nat} (h : upTo? most s = some (n, rest)) :
    ∃ digits, s = digits ++ rest ∧ digits ≠ [] ∧ digits.length ≤ most ∧ (∀ c ∈ digits, c.isDigit) ∧
      value digits = n := by
  obtain ⟨digits, span, hn, hv⟩ := upTo?_eq_some_iff.mp h
  obtain ⟨hs, hd, hl, -⟩ := spanDigits_eq_iff.mp span
  exact ⟨digits, hs, hn, hl, hd, hv⟩

theorem exists_blanks (s : List Char) : ∃ blanks, s = blanks ++ trimStart s ∧ ∀ c ∈ blanks, isBlank c :=
  ⟨_, (takeWhile_append_trimStart s).symm, fun _ => List.mem_takeWhile_imp⟩

theorem number?_takes : number?.Takes WrittenNumber := by
  intro s n rest h
  obtain ⟨digits, ht, hn, hl, hd, hv⟩ := exists_digits_of_upTo? h
  obtain ⟨blanks, hs, hb⟩ := exists_blanks s
  rw [ht, ← List.append_assoc] at hs
  exact ⟨_, hs, blanks, digits, rfl, hb, hn, hl, hd, hv⟩

theorem writtenYear_of_year? {year : Int} (h : year? s = some (year, rest)) :
    ∃ blanks taken, s = blanks ++ (taken ++ rest) ∧ (∀ c ∈ blanks, isBlank c) ∧ WrittenYear taken year := by
  obtain ⟨blanks, hs, hb⟩ := exists_blanks s
  obtain ⟨r, n, ht, hr, rfl⟩ | ⟨r, n, ht, hr, rfl⟩ | ⟨n, hr, rfl⟩ := year?_eq_some_iff.mp h
  · obtain ⟨digits, rfl, hn, -, hd, rfl⟩ := exists_digits_of_upTo? hr
    exact ⟨blanks, '+' :: digits, by rw [hs, ht, List.cons_append], hb, .positive hn hd⟩
  · obtain ⟨digits, rfl, hn, -, hd, rfl⟩ := exists_digits_of_upTo? hr
    exact ⟨blanks, '-' :: digits, by rw [hs, ht, List.cons_append], hb, .negative hn hd⟩
  · obtain ⟨digits, ht, hn, -, hd, rfl⟩ := exists_digits_of_upTo? hr
    exact ⟨blanks, digits, ht ▸ hs, hb, .unsigned hn hd⟩

theorem date?_takes : date?.Takes WrittenDate := by
  intro s d rest h
  obtain ⟨_, _, hy, hm, hd⟩ := date?_eq_some_iff.mp h
  obtain ⟨blanks, year, rfl, hb, wy⟩ := writtenYear_of_year? hy
  obtain ⟨month, rfl, wm⟩ := number?_takes hm
  obtain ⟨day, rfl, wd⟩ := number?_takes hd
  exact ⟨blanks ++ (year ++ '-' :: (month ++ '-' :: day)), by simp, blanks, year, month, day, rfl, hb, wy, wm, wd⟩

/-- A time of day to any fraction of a second. -/
structure FineTime where
  hour : Nat
  minute : Nat
  second : Nat
  digits : List Char

def FineTime.truncate (t : FineTime) : TimeOfDay := ⟨t.hour, t.minute, t.second, fractionMillis t.digits⟩

inductive WrittenPoint : List Char → List Char → Prop
  | absent : WrittenPoint [] []
  | present {digits : List Char} : digits ≠ [] → (∀ c ∈ digits, c.isDigit) → WrittenPoint ('.' :: digits) digits

inductive WrittenSeconds : List Char → Nat → List Char → Prop
  | absent : WrittenSeconds [] 0 []
  | present {s q digits : List Char} {second : Nat} :
      WrittenNumber s second → WrittenPoint q digits → WrittenSeconds (':' :: (s ++ q)) second digits

def WrittenTime (s : List Char) (t : FineTime) : Prop :=
  ∃ hour minute seconds, s = hour ++ ':' :: (minute ++ seconds) ∧ WrittenNumber hour t.hour ∧
    WrittenNumber minute t.minute ∧ WrittenSeconds seconds t.second t.digits

def WrittenTo (s : List Char) (time : TimeOfDay) : Prop := ∃ t, WrittenTime s t ∧ t.truncate = time

theorem hourMinute?_takes : hourMinute?.Takes WrittenTo := by
  intro s time rest h
  obtain ⟨hour, minute, _, rh, rm, rfl⟩ := hourMinute?_eq_some_iff.mp h
  obtain ⟨a, rfl, wh⟩ := number?_takes rh
  obtain ⟨b, rfl, wm⟩ := number?_takes rm
  exact ⟨a ++ ':' :: b, by simp, ⟨hour, minute, 0, []⟩, ⟨a, b, [], by simp, wh, wm, .absent⟩, rfl⟩

theorem exists_numbers_of_hourMinuteSecond? {time : TimeOfDay} (h : hourMinuteSecond? s = some (time, rest)) :
    ∃ a b c hour minute second, s = a ++ ':' :: (b ++ ':' :: (c ++ rest)) ∧ WrittenNumber a hour ∧
      WrittenNumber b minute ∧ WrittenNumber c second ∧ time = ⟨hour, minute, second, 0⟩ := by
  obtain ⟨_, second, _, front, rs, rfl⟩ := hourMinuteSecond?_eq_some_iff.mp h
  obtain ⟨hour, minute, _, rh, rm, rfl⟩ := hourMinute?_eq_some_iff.mp front
  obtain ⟨a, rfl, wh⟩ := number?_takes rh
  obtain ⟨b, rfl, wm⟩ := number?_takes rm
  obtain ⟨c, rfl, ws⟩ := number?_takes rs
  exact ⟨a, b, c, hour, minute, second, rfl, wh, wm, ws, rfl⟩

theorem fraction?_takes : fraction?.Takes fun q milli => ∃ digits, WrittenPoint q digits ∧ fractionMillis digits = milli := by
  intro s milli rest h
  simp only [fraction?] at h
  split at h
  · next r =>
    split at h
    · cases h
    · next hn =>
      cases h
      refine ⟨'.' :: r.takeWhile Char.isDigit, by simp, _, .present (by simpa using hn) ?_, rfl⟩
      exact fun c => List.mem_takeWhile_imp
  · cases h
    exact ⟨[], rfl, [], .absent, rfl⟩

theorem hourMinuteFraction?_takes : hourMinuteFraction?.Takes WrittenTo := by
  intro s time rest h
  obtain ⟨_, milli, _, front, rf, rfl⟩ := hourMinuteFraction?_eq_some_iff.mp h
  obtain ⟨a, b, c, hour, minute, second, rfl, wh, wm, ws, rfl⟩ := exists_numbers_of_hourMinuteSecond? front
  obtain ⟨q, rfl, digits, wq, rfl⟩ := fraction?_takes rf
  exact ⟨a ++ ':' :: (b ++ ':' :: (c ++ q)), by simp, ⟨hour, minute, second, digits⟩,
    ⟨a, b, _, rfl, wh, wm, .present ws wq⟩, rfl⟩

theorem hourMinuteSecond?_takes : hourMinuteSecond?.Takes WrittenTo := by
  intro s time rest h
  obtain ⟨a, b, c, hour, minute, second, rfl, wh, wm, ws, rfl⟩ := exists_numbers_of_hourMinuteSecond? h
  exact ⟨a ++ ':' :: (b ++ ':' :: c), by simp, ⟨hour, minute, second, []⟩,
    ⟨a, b, ':' :: c, rfl, wh, wm, by simpa using WrittenSeconds.present ws .absent⟩, rfl⟩

theorem exists_figures_of_digits? {width n : Nat} (h : digits? width s = some (n, rest)) :
    ∃ f : Figures width, s = f.text ++ rest ∧ f.number = n := by
  obtain ⟨digits, span, length, rfl⟩ := digits?_eq_some_iff.mp h
  obtain ⟨rfl, hd, -⟩ := spanDigits_eq_iff.mp span
  exact ⟨⟨digits, length, List.all_eq_true.mpr hd⟩, rfl, rfl⟩

theorem exists_figures_of_ahead? {east : Int} (h : ahead? s = some (east, rest)) :
    ∃ hours minutes : Figures 2, s = hours.text ++ ':' :: (minutes.text ++ rest) ∧ hours.number ≤ 23 ∧
      minutes.number ≤ 59 ∧ east = 60 * hours.number + minutes.number := by
  simp only [ahead?, Option.bind_eq_bind, Option.bind_eq_some_iff, Prod.exists, skip?_eq_some_iff,
    Option.ite_none_right_eq_some, Option.pure_def, Option.some.injEq, Prod.mk.injEq] at h
  obtain ⟨_, _, hh, _, rfl, _, _, hm, ⟨lm, lh⟩, rfl, rfl⟩ := h
  obtain ⟨hours, rfl, rfl⟩ := exists_figures_of_digits? hh
  obtain ⟨minutes, rfl, rfl⟩ := exists_figures_of_digits? hm
  exact ⟨hours, minutes, rfl, lh, lm, by omega⟩

theorem writtenZone_of_zone? {east : Int} (h : zone? s = some (east, [])) : WrittenZone s east := by
  unfold zone? at h
  split at h
  · cases h
    exact .utc (by decide)
  · cases h
    exact .utc (by decide)
  · obtain ⟨hours, minutes, rfl, lh, lm, rfl⟩ := exists_figures_of_ahead? h
    rw [List.append_nil]
    exact .ahead hours minutes lh lm
  · simp only [Option.map_eq_some_iff, Prod.exists, Prod.mk.injEq] at h
    obtain ⟨_, _, h, rfl, rfl⟩ := h
    obtain ⟨hours, minutes, rfl, lh, lm, rfl⟩ := exists_figures_of_ahead? h
    rw [List.append_nil]
    exact .behind hours minutes (by decide) lh lm
  · simp only [Option.map_eq_some_iff, Prod.exists, Prod.mk.injEq] at h
    obtain ⟨_, _, h, rfl, rfl⟩ := h
    obtain ⟨hours, minutes, rfl, lh, lm, rfl⟩ := exists_figures_of_ahead? h
    rw [List.append_nil]
    exact .behind hours minutes (by decide) lh lm
  · cases h

/-- A date and a time of day, in UTC if no zone follows. -/
inductive WrittenInstant : List Char → Date → FineTime → Int → Prop
  | utc {d t : List Char} {c : Char} {date : Date} {time : FineTime} :
      c ∈ ['T', ':'] → WrittenDate d date → WrittenTime t time → WrittenInstant (d ++ c :: t) date time 0
  | zoned {d t z : List Char} {c : Char} {date : Date} {time : FineTime} {east : Int} :
      c ∈ ['T', 't', ' '] → WrittenDate d date → WrittenTime t time → WrittenZone z east →
      WrittenInstant (d ++ c :: (t ++ z)) date time east

section

variable {m : Moment}

theorem Iso.local?_written {time? : Reader TimeOfDay} (takes : time?.Takes WrittenTo) (h : local? time? s = some m) :
    ∃ t, WrittenInstant s m.date t m.east ∧ t.truncate = m.time := by
  obtain ⟨date, time, tail, hd, ht, hm⟩ := local?_eq_some_iff.mp h
  obtain ⟨rfl, -⟩ := moment?_eq_some_iff.mp hm
  obtain ⟨d, rfl, wd⟩ := date?_takes hd
  obtain ⟨taken, rfl, t, wt, truncated⟩ := takes ht
  rw [List.append_nil]
  exact ⟨t, .utc (by decide) wd wt, truncated⟩

theorem Iso.zoned?_written (h : zoned? s = some m) : ∃ t, WrittenInstant s m.date t m.east ∧ t.truncate = m.time := by
  obtain ⟨date, c, tail, time, zone, east, hd, hc, ht, hz, hm⟩ := zoned?_eq_some_iff.mp h
  obtain ⟨rfl, -⟩ := moment?_eq_some_iff.mp hm
  obtain ⟨d, rfl, wd⟩ := date?_takes (date?_of_strictDate? hd)
  obtain ⟨taken, rfl, t, wt, truncated⟩ := hourMinuteFraction?_takes (hourMinuteFraction?_of_strictTime? ht)
  exact ⟨t, .zoned hc wd wt (writtenZone_of_zone? hz), truncated⟩

theorem iso?_written (h : iso? s = some m) : ∃ t, WrittenInstant s m.date t m.east ∧ t.truncate = m.time := by
  obtain ⟨-, form, hf, hm⟩ := iso?_eq_some_iff.mp h
  simp only [Iso.forms, List.mem_cons, List.not_mem_nil, or_false] at hf
  obtain rfl | rfl | rfl | rfl := hf
  · exact Iso.zoned?_written hm
  · exact Iso.local?_written hourMinuteSecond?_takes hm
  · exact Iso.local?_written hourMinuteFraction?_takes hm
  · exact Iso.local?_written hourMinute?_takes hm

theorem dateTime?_written (h : dateTime? s = some m) :
    ∃ t, WrittenInstant s m.date t m.east ∧ t.truncate = m.time := by
  obtain ⟨d, t, date, time, rfl, -, hd, ht, hm⟩ := dateTime?_eq_some_iff.mp h
  obtain ⟨rfl, -⟩ := moment?_eq_some_iff.mp hm
  obtain ⟨d, rfl, wd⟩ := date?_takes hd
  have takes : ∃ taken, t = taken ++ [] ∧ WrittenTo taken time := by
    obtain ⟨-, ht⟩ | ⟨-, ht⟩ := ht
    · exact hourMinute?_takes ht
    · exact hourMinuteSecond?_takes ht
  obtain ⟨taken, rfl, t, wt, truncated⟩ := takes
  rw [List.append_nil, List.append_nil]
  exact ⟨t, .utc (by decide) wd wt, truncated⟩

end

end TimeWindow.Endpoint
