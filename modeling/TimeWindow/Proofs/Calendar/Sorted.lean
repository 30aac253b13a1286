import Mathlib.Data.List.Forall2
import TimeWindow.Proofs.Calendar.Order
import TimeWindow.Proofs.Endpoint.Timestamp
import TimeWindow.Proofs.Text.Columns

namespace TimeWindow.Calendar

open Text

def Moment.fields (m : Moment) : List Nat :=
  [m.date.year.toNat, m.date.month, m.date.day, m.time.hour, m.time.minute, m.time.second, m.time.milli]

theorem Moment.Before.lex_fields {m n : Moment} (h : m.Before n) (hm : 0 ≤ m.date.year) :
    List.Lex (· < ·) m.fields n.fields := by
  simp only [fields, List.cons_lex_cons_iff, List.not_lex_nil, and_false, or_false]
  obtain earlier | ⟨same, earlier⟩ := h
  · simp only [Date.Before] at earlier
    omega
  · simp only [TimeOfDay.Before] at earlier
    rw [same]
    omega

def stampColumns : List Column :=
  [⟨4, ['-']⟩, ⟨2, ['-']⟩, ⟨2, [' ']⟩, ⟨2, [':']⟩, ⟨2, [':']⟩, ⟨2, ['.']⟩, ⟨3, " UTC".toList⟩]

def HasPlainYear (t : Millis) : Prop :=
  0 ≤ (Moment.ofEpochMillis t.toInt).date.year ∧ (Moment.ofEpochMillis t.toInt).date.year ≤ 9999

instance (t : Millis) : Decidable (HasPlainYear t) := inferInstanceAs (Decidable (_ ∧ _))

variable {t u : Millis}

theorem hasPlainYear_iff : HasPlainYear t ↔ -62167219200000 ≤ t.toInt ∧ t.toInt ≤ 253402300799999 := by
  have first : daysBeforeYear 0 = -366 := by decide
  have last : daysBeforeYear 10000 = 3652059 := by decide
  have lower : 0 ≤ yearOfDay (t.toInt / millisPerDay + 719162) ↔ _ := le_yearOfDay_iff
  have upper : 10000 ≤ yearOfDay (t.toInt / millisPerDay + 719162) ↔ _ := le_yearOfDay_iff
  have year : (Moment.ofEpochMillis t.toInt).date.year = yearOfDay (t.toInt / millisPerDay + 719162) := rfl
  simp only [HasPlainYear, year]
  simp only [millisPerDay] at *
  omega

theorem HasPlainYear.supported (h : HasPlainYear t) : (Moment.ofEpochMillis t.toInt).date.Supported := by
  simp only [HasPlainYear, Date.Supported] at *
  omega

theorem HasPlainYear.fitting (h : HasPlainYear t) : Fitting stampColumns (Moment.ofEpochMillis t.toInt).fields := by
  obtain ⟨date, -, hour, minute, second, milli⟩ := Moment.valid_ofEpochMillis h.supported
  obtain ⟨month, day⟩ := date.month_le_and_day_le
  simp only [HasPlainYear] at h
  simp only [Fitting, stampColumns, Moment.fields, List.forall₂_cons, List.forall₂_nil_left_iff, and_true]
  omega

theorem HasPlainYear.toList_timestamp (h : HasPlainYear t) :
    (timestamp t).toList = row stampColumns (Moment.ofEpochMillis t.toInt).fields := by
  have year : yearText (Moment.ofEpochMillis t.toInt).date.year = padded 4 _ := if_pos h
  rw [Endpoint.toList_timestamp h.supported, dateText, year]
  simp [timeText, row, stampColumns, Moment.fields]

theorem HasPlainYear.length_timestamp (h : HasPlainYear t) : (timestamp t).length = 27 := by
  rw [← String.length_toList, h.toList_timestamp, length_row h.fitting]
  rfl

theorem HasPlainYear.timestamp_lex_timestamp (ht : HasPlainYear t) (hu : HasPlainYear u) (h : t < u) :
    List.Lex (· < ·) (timestamp t).toList (timestamp u).toList := by
  have before := Moment.before_ofEpochMillis (Int64.lt_iff_toInt_lt.mp h)
  rw [ht.toList_timestamp, hu.toList_timestamp]
  exact row_lex_row ht.fitting hu.fitting (before.lex_fields ht.1)

/-- In the years of four digits timestamps have one length, and their characters put them in the order of their instants. -/
theorem timestamps_sort_as_instants :
    (∀ t, HasPlainYear t ↔ -62167219200000 ≤ t.toInt ∧ t.toInt ≤ 253402300799999) ∧
    ∀ t u, HasPlainYear t → HasPlainYear u →
      (timestamp t).length = (timestamp u).length ∧
        (List.Lex (· < ·) (timestamp t).toList (timestamp u).toList ↔ t < u) := by
  refine ⟨fun t => hasPlainYear_iff, fun t u ht hu => ⟨?_, ?_, ht.timestamp_lex_timestamp hu⟩⟩
  · rw [ht.length_timestamp, hu.length_timestamp]
  · intro h
    by_contra hn
    obtain later | rfl := Int64.lt_or_eq_of_le (Int64.not_lt.mp hn)
    · exact List.lex_asymm Char.lt_asymm h (hu.timestamp_lex_timestamp ht later)
    · exact List.lex_irrefl Char.lt_irrefl _ h

theorem last_of_1969_sorts_before_1970 :
    HasPlainYear (-1) ∧ HasPlainYear 0 ∧
      List.Lex (· < ·) "1969-12-31 23:59:59.999 UTC".toList "1970-01-01 00:00:00.000 UTC".toList ∧
      HasPlainYear (-62167219200000) ∧ HasPlainYear 253402300799999 ∧
      (timestamp (-62167219200000)).length = (timestamp 253402300799999).length := by
  have before : timestamp (-1) = "1969-12-31 23:59:59.999 UTC" := by decide
  have first : timestamp 0 = "1970-01-01 00:00:00.000 UTC" := by decide
  refine ⟨by decide, by decide, ?_, by decide, by decide, ?_⟩
  · rw [← before, ← first]
    exact (timestamps_sort_as_instants.2 (-1) 0 (by decide) (by decide)).2.mpr (by decide)
  · exact (timestamps_sort_as_instants.2 _ _ (by decide) (by decide)).1

end TimeWindow.Calendar
