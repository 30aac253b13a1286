import TimeWindow.Proofs.Calendar.Succession

namespace TimeWindow.Calendar

namespace Date

variable {d e f : Date}

def Before (d e : Date) : Prop :=
  d.year < e.year ∨ d.year = e.year ∧ (d.month < e.month ∨ d.month = e.month ∧ d.day < e.day)

theorem Before.trans (h : d.Before e) (h' : e.Before f) : d.Before f := by
  simp only [Before] at *
  omega

theorem before_next (d : Date) : d.Before d.next := by
  unfold next
  split
  · exact .inr ⟨rfl, .inr ⟨rfl, Nat.lt_succ_self d.day⟩⟩
  · split
    · exact .inr ⟨rfl, .inl (Nat.lt_succ_self d.month)⟩
    · exact .inl (Int.lt_succ d.year)

theorem before_of_dayNumber_lt (hd : d.Valid) (he : e.Valid) (h : d.dayNumber < e.dayNumber) : d.Before e := by
  obtain ⟨days, between⟩ := Int.exists_add_of_le (Int.add_one_le_of_lt h)
  -- the earlier date goes on day by day
  induction days generalizing d with
  | zero =>
    obtain ⟨valid, number⟩ := valid_and_dayNumber_next hd
    rw [dayNumber_injective he valid (by omega)]
    exact before_next d
  | succ days ih =>
    obtain ⟨valid, number⟩ := valid_and_dayNumber_next hd
    exact (before_next d).trans (ih valid (by omega) (by omega))

end Date

namespace TimeOfDay

def Before (t u : TimeOfDay) : Prop :=
  t.hour < u.hour ∨ t.hour = u.hour ∧ (t.minute < u.minute ∨ t.minute = u.minute ∧
    (t.second < u.second ∨ t.second = u.second ∧ t.milli < u.milli))

theorem before_ofMillis {m n : Nat} (h : m < n) : (ofMillis m).Before (ofMillis n) := by
  simp only [Before, ofMillis]
  omega

end TimeOfDay

def Moment.Before (m n : Moment) : Prop := m.date.Before n.date ∨ m.date = n.date ∧ m.time.Before n.time

theorem Moment.before_ofEpochMillis {m n : Int} (h : m < n) : (ofEpochMillis m).Before (ofEpochMillis n) := by
  obtain earlier | same : m / millisPerDay < n / millisPerDay ∨ m / millisPerDay = n / millisPerDay := by
    simp only [millisPerDay]
    omega
  · obtain ⟨valid, number⟩ := Date.valid_and_dayNumber_ofDayNumber (m / millisPerDay)
    obtain ⟨valid', number'⟩ := Date.valid_and_dayNumber_ofDayNumber (n / millisPerDay)
    rw [← number, ← number'] at earlier
    exact .inl (Date.before_of_dayNumber_lt valid valid' earlier)
  · refine .inr ⟨congrArg Date.ofDayNumber same, TimeOfDay.before_ofMillis ?_⟩
    simp only [millisPerDay] at *
    omega

end TimeWindow.Calendar
