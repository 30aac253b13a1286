import TimeWindow.Calendar.Timestamp
import TimeWindow.Proofs.Calendar.DayNumber
import TimeWindow.Proofs.Endpoint.ClockUse
import TimeWindow.Proofs.Text.Decimal
import Mathlib.Data.List.DropRight

namespace TimeWindow.Endpoint

open Calendar Text

theorem digits?_padded {width n : Nat} (hw : 0 < width) (hn : n < 10 ^ width) (rest : List Char) :
    digits? width (padded width n ++ rest) = some (n, rest) := by
  have digits : ∀ c ∈ padded width n, c.isDigit := fun _ => isDigit_of_mem_padded
  have h := digits?_append digits rest
  rwa [length_padded hw hn, value_padded] at h

theorem number?_padded {n : Nat} (hn : n < 100) (rest : List Char) :
    number? (padded 2 n ++ rest) = some (n, rest) := number?_of_digits? (digits?_padded (by decide) hn rest)

theorem upTo?_padded (width n : Nat) {rest : List Char} (hr : NoDigitAhead rest) :
    upTo? (padded width n ++ rest).length (padded width n ++ rest) = some (n, rest) := by
  have hs : spanDigits (padded width n ++ rest).length (padded width n ++ rest) = (padded width n, rest) :=
    spanDigits_eq_iff.mpr ⟨rfl, fun _ => isDigit_of_mem_padded, by simp, .inr hr⟩
  exact upTo?_eq_some_iff.mpr ⟨_, hs, padded_ne_nil width n, value_padded width n⟩

theorem year?_yearText (y : Int) {rest : List Char} (hr : NoDigitAhead rest) :
    year? (yearText y ++ rest) = some (y, rest) := by
  unfold yearText
  split
  · next h =>
    have hd : digits? 4 (padded 4 y.toNat ++ rest) = some (y.toNat, rest) :=
      digits?_padded (by decide) (by omega) rest
    rw [year?_of_digits? hd, Int.toNat_of_nonneg h.1]
  · next h =>
    rw [year?_eq_some_iff]
    split
    · next hn =>
      exact .inr (.inl ⟨_, y.natAbs, rfl, upTo?_padded 4 y.natAbs hr, by omega⟩)
    · next hn =>
      exact .inl ⟨_, y.natAbs, rfl, upTo?_padded 4 y.natAbs hr, by omega⟩

theorem date?_dateText {d : Date} (hm : d.month < 100) (hd : d.day < 100) (rest : List Char) :
    date? (dateText d ++ rest) = some (d, rest) := by
  simp only [dateText, List.append_assoc, List.cons_append]
  exact date?_eq_some_iff.mpr
    ⟨_, _, year?_yearText d.year (noDigitAhead_cons rfl _), number?_padded hm _, number?_padded hd _⟩

theorem fraction?_padded {n : Nat} (hn : n < 1000) : fraction? ('.' :: padded 3 n) = some (n, []) := by
  have digits : ∀ c ∈ padded 3 n, c.isDigit := fun _ => isDigit_of_mem_padded
  have length : (padded 3 n).length = 3 := length_padded (by decide) hn
  have taken : (padded 3 n).takeWhile Char.isDigit = padded 3 n := List.takeWhile_eq_self_iff.mpr digits
  have left : (padded 3 n).dropWhile Char.isDigit = [] := List.dropWhile_eq_nil_iff.mpr digits
  have millis : fractionMillis (padded 3 n) = n := by
    rw [fractionMillis, List.take_append_of_le_length length.ge, List.take_of_length_le length.le,
      value_padded]
  simp [fraction?, taken, left, padded_ne_nil, millis]

theorem hourMinute?_padded {h m : Nat} (hh : h < 100) (hm : m < 100) (rest : List Char) :
    hourMinute? (padded 2 h ++ ':' :: (padded 2 m ++ rest)) = some (⟨h, m, 0, 0⟩, rest) :=
  hourMinute?_eq_some_iff.mpr ⟨h, m, _, number?_padded hh _, number?_padded hm _, rfl⟩

theorem hourMinuteSecond?_padded {h m s : Nat} (hh : h < 100) (hm : m < 100) (hs : s < 100)
    (rest : List Char) :
    hourMinuteSecond? (padded 2 h ++ ':' :: (padded 2 m ++ ':' :: (padded 2 s ++ rest))) =
      some (⟨h, m, s, 0⟩, rest) :=
  hourMinuteSecond?_eq_some_iff.mpr ⟨_, s, _, hourMinute?_padded hh hm _, number?_padded hs _, rfl⟩

theorem hourMinuteFraction?_timeText {t : TimeOfDay} (h : t.Valid) :
    hourMinuteFraction? (timeText t) = some (t, []) := by
  obtain ⟨hour, minute, second, milli⟩ := h
  have hms := hourMinuteSecond?_padded (by omega : t.hour < 100) (by omega : t.minute < 100)
    (by omega : t.second < 100) ('.' :: padded 3 t.milli)
  simp only [timeText, List.append_assoc, List.cons_append]
  exact hourMinuteFraction?_eq_some_iff.mpr ⟨_, t.milli, _, hms, fraction?_padded (by omega), rfl⟩

def isoText (m : Moment) : List Char := dateText m.date ++ 'T' :: timeText m.time

theorem toFraction?_isoText {m : Moment} (h : m.Valid) (hz : m.east = 0) :
    Iso.toFraction? (isoText m) = some m := by
  obtain ⟨month, day⟩ := h.1.month_le_and_day_le
  refine Iso.local?_eq_some_iff.mpr ⟨m.date, m.time, _, date?_dateText (by omega) (by omega) _,
    hourMinuteFraction?_timeText h.2.2, ?_⟩
  have hm : (⟨m.date, m.time, 0⟩ : Moment) = m := by rw [← hz]
  rw [moment?, hm, if_pos h]

theorem iso?_isoText {m : Moment} (h : m.Valid) (hz : m.east = 0) : iso? (isoText m) = some m :=
  iso?_eq_some_iff.mpr ⟨List.mem_append_right _ List.mem_cons_self, Iso.toFraction?, by simp [Iso.forms],
    toFraction?_isoText h hz⟩

theorem mem_dateText {d : Date} {c : Char} (h : c ∈ dateText d) : c.isDigit ∨ c = '+' ∨ c = '-' := by
  have year : c ∈ yearText d.year → c.isDigit ∨ c = '+' ∨ c = '-' := by
    unfold yearText
    intro hy
    split at hy
    · exact .inl (isDigit_of_mem_padded hy)
    · cases List.mem_cons.mp hy with
      | inl h =>
        right
        split at h
        · exact .inr h
        · exact .inl h
      | inr h => exact .inl (isDigit_of_mem_padded h)
  simp only [dateText, List.mem_append, List.mem_cons] at h
  obtain (h | h | h) | h | h := h
  · exact year h
  · exact .inr (.inr h)
  · exact .inl (isDigit_of_mem_padded h)
  · exact .inr (.inr h)
  · exact .inl (isDigit_of_mem_padded h)

theorem mem_timeText {t : TimeOfDay} {c : Char} (h : c ∈ timeText t) : c.isDigit ∨ c = ':' ∨ c = '.' := by
  simp only [timeText, List.mem_append, List.mem_cons] at h
  obtain ((h | h | h) | h | h) | h | h := h
  · exact .inl (isDigit_of_mem_padded h)
  · exact .inr (.inl h)
  · exact .inl (isDigit_of_mem_padded h)
  · exact .inr (.inl h)
  · exact .inl (isDigit_of_mem_padded h)
  · exact .inr (.inr h)
  · exact .inl (isDigit_of_mem_padded h)

theorem isBlank_eq_false_of_mem_isoText {m : Moment} {c : Char} (h : c ∈ isoText m) : isBlank c = false := by
  rw [isoText, List.mem_append, List.mem_cons] at h
  obtain h | rfl | h := h
  · obtain h | rfl | rfl := mem_dateText h
    · exact isBlank_of_isDigit h
    · decide
    · decide
  · decide
  · obtain h | rfl | rfl := mem_timeText h
    · exact isBlank_of_isDigit h
    · decide
    · decide

def isoForm (text : String) : String := String.ofList ((text.toList.rdrop 4).replace ' ' 'T')

variable {t : Millis}

theorem toList_timestamp (h : (Moment.ofEpochMillis t.toInt).date.Supported) :
    (timestamp t).toList = dateText (Moment.ofEpochMillis t.toInt).date ++
      ' ' :: timeText (Moment.ofEpochMillis t.toInt).time ++ " UTC".toList := by
  simp only [timestamp, if_pos h]
  exact String.toList_ofList

theorem timestamp_of_not_supported (h : ¬ (Moment.ofEpochMillis t.toInt).date.Supported) :
    timestamp t = decimal t.toInt := by
  simp only [timestamp, if_neg h, decimal]

theorem isoForm_timestamp (h : (Moment.ofEpochMillis t.toInt).date.Supported) :
    isoForm (timestamp t) = String.ofList (isoText (Moment.ofEpochMillis t.toInt)) := by
  have noBlank : ' ' ∉ dateText (Moment.ofEpochMillis t.toInt).date := fun hb =>
    absurd (mem_dateText hb) (by decide)
  rw [isoForm, toList_timestamp h, show 4 = " UTC".toList.length from rfl, List.rdrop_append_length,
    List.replace_append_right noBlank, List.replace_cons_self, isoText]

theorem read_isoForm_timestamp (h : (Moment.ofEpochMillis t.toInt).date.Supported) (clock : Clock) :
    read (isoForm (timestamp t)) clock = (.ok t, clock) := by
  have moment : iso? (isoText (Moment.ofEpochMillis t.toInt)) = some (Moment.ofEpochMillis t.toInt) :=
    iso?_isoText (Moment.valid_ofEpochMillis h) rfl
  have instant : ofMoment (Moment.ofEpochMillis t.toInt) = fixed t := by
    rw [ofMoment, Moment.epochMillis_ofEpochMillis, Int64.ofInt_toInt]
  apply read_of_fixed
  rw [isoForm_timestamp h, String.toList_ofList, trim_eq_self fun _ => isBlank_eq_false_of_mem_isoText]
  exact ofText?_eq_some_iff.mpr (.inr (.inr (.inl ⟨_, moment, instant⟩)))

theorem timestamp_ne_decimal (h : (Moment.ofEpochMillis t.toInt).date.Supported) (n : Int) :
    timestamp t ≠ decimal n := by
  intro e
  have texts : (timestamp t).toList = signed n := by rw [e, decimal, String.toList_ofList]
  have blank : ' ' ∈ signed n := by simp [← texts, toList_timestamp h]
  exact absurd (mem_signed blank) (by decide)

theorem timestamp_injective : Function.Injective timestamp := by
  intro t u e
  by_cases ht : (Moment.ofEpochMillis t.toInt).date.Supported
  · by_cases hu : (Moment.ofEpochMillis u.toInt).date.Supported
    · have read := read_isoForm_timestamp ht (.fixed 0)
      rw [e, read_isoForm_timestamp hu] at read
      simpa using read.symm
    · rw [timestamp_of_not_supported hu] at e
      exact absurd e (timestamp_ne_decimal ht _)
  · rw [timestamp_of_not_supported ht] at e
    by_cases hu : (Moment.ofEpochMillis u.toInt).date.Supported
    · exact absurd e.symm (timestamp_ne_decimal hu _)
    · rw [timestamp_of_not_supported hu] at e
      exact Int64.toInt_inj.mp (signed_injective (String.ofList_injective e))

/-- Over the whole calendar a timestamp reads as its own instant, by any clock and without it; elsewhere it is
a bare numeral, and no two instants share a timestamp. -/
theorem timestamp_names_its_instant :
    (∀ t : Millis, -8334601228800000 ≤ t.toInt ∧ t.toInt ≤ 8210266876799999 →
      " UTC".toList <:+ (timestamp t).toList ∧
        ∀ clock, read (isoForm (timestamp t)) clock = (.ok t, clock)) ∧
    (∀ t : Millis, ¬ (-8334601228800000 ≤ t.toInt ∧ t.toInt ≤ 8210266876799999) →
      timestamp t = decimal t.toInt) ∧
    Function.Injective timestamp := by
  refine ⟨?_, ?_, timestamp_injective⟩
  · intro t ht
    have supported := Moment.supported_ofEpochMillis_iff.mpr ht
    constructor
    · rw [toList_timestamp supported]
      exact List.suffix_append _ _
    · exact read_isoForm_timestamp supported
  · intro t ht
    exact timestamp_of_not_supported fun h => ht (Moment.supported_ofEpochMillis_iff.mp h)

theorem read_midnights :
    (∀ clock, read "-0001-12-31T00:00:00.000" clock = (.ok (-62167305600000), clock)) ∧
      (∀ clock, read "+10000-01-01T00:00:00.000" clock = (.ok 253402300800000, clock)) ∧
      timestamp 8210266876800000 = "8210266876800000" := by
  have early : isoForm (timestamp (-62167305600000)) = "-0001-12-31T00:00:00.000" := by decide
  have late : isoForm (timestamp 253402300800000) = "+10000-01-01T00:00:00.000" := by decide
  refine ⟨?_, ?_, ?_⟩
  · rw [← early]
    exact (timestamp_names_its_instant.1 (-62167305600000) (by decide)).2
  · rw [← late]
    exact (timestamp_names_its_instant.1 253402300800000 (by decide)).2
  · exact timestamp_names_its_instant.2.1 8210266876800000 (by decide)

end TimeWindow.Endpoint
