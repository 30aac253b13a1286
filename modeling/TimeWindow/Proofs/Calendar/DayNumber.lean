import TimeWindow.Calendar

namespace TimeWindow.Calendar

theorem daysBeforeYear_of_cycles {e c q k : Int} (hc : 0 ≤ c ∧ c ≤ 3) (hq : 0 ≤ q ∧ q ≤ 24)
    (hk : 0 ≤ k ∧ k ≤ 3) :
    daysBeforeYear (400 * e + 100 * c + 4 * q + k + 1) = 146097 * e + 36524 * c + 1461 * q + 365 * k := by
  unfold daysBeforeYear
  omega

theorem daysBeforeYear_succ (y : Int) :
    daysBeforeYear (y + 1) = daysBeforeYear y + 365 + if IsLeap y then 1 else 0 := by
  by_cases h : IsLeap y
  · rw [if_pos h]
    unfold IsLeap at h
    unfold daysBeforeYear
    omega
  · rw [if_neg h]
    unfold IsLeap at h
    unfold daysBeforeYear
    omega

theorem daysBeforeYear_mono {y z : Int} (h : y ≤ z) : daysBeforeYear y ≤ daysBeforeYear z := by
  unfold daysBeforeYear
  omega

theorem exists_cycles (day : Int) : ∃ e c q k rest : Int,
    yearOfDay day = 400 * e + 100 * c + 4 * q + k + 1 ∧
      day = 146097 * e + 36524 * c + 1461 * q + 365 * k + rest ∧
      (0 ≤ c ∧ c ≤ 3) ∧ (0 ≤ q ∧ q ≤ 24) ∧ (0 ≤ k ∧ k ≤ 3) ∧ 0 ≤ rest ∧
      (rest ≤ 364 ∨ rest = 365 ∧ k = 3 ∧ (q = 24 → c = 3)) := by
  obtain ⟨inEra, hi⟩ : ∃ r, r = day % 146097 := ⟨_, rfl⟩
  obtain ⟨c, hc⟩ : ∃ c, c = min 3 (inEra / 36524) := ⟨_, rfl⟩
  obtain ⟨r, hr⟩ : ∃ r, r = inEra - c * 36524 := ⟨_, rfl⟩
  obtain ⟨k, hk⟩ : ∃ k, k = min 3 (r % 1461 / 365) := ⟨_, rfl⟩
  refine ⟨day / 146097, c, r / 1461, k, r % 1461 - 365 * k, ?_, ?_, ?_, ?_, ?_, ?_, ?_⟩
  · rw [hk, hr, hc, hi]
    rfl
  -- the last of four years alone has a day 365, and the last of a hundred only where it ends four hundred
  all_goals omega

theorem yearOfDay_bounds (day : Int) :
    daysBeforeYear (yearOfDay day) ≤ day ∧ day < daysBeforeYear (yearOfDay day + 1) := by
  obtain ⟨e, c, q, k, rest, hy, hd, hc, hq, hk, hr, hl⟩ := exists_cycles day
  rw [daysBeforeYear_succ, hy, daysBeforeYear_of_cycles hc hq hk]
  refine ⟨by omega, ?_⟩
  cases hl with
  | inl h => split <;> omega
  | inr h =>
    have leap : IsLeap (400 * e + 100 * c + 4 * q + k + 1) := by
      unfold IsLeap
      omega
    rw [if_pos leap]
    omega

theorem le_yearOfDay_iff {y day : Int} : y ≤ yearOfDay day ↔ daysBeforeYear y ≤ day := by
  obtain ⟨lower, upper⟩ := yearOfDay_bounds day
  constructor
  · intro h
    exact Int.le_trans (daysBeforeYear_mono h) lower
  · intro h
    apply Int.not_lt.mp
    intro hn
    have := daysBeforeYear_mono (Int.add_one_le_of_lt hn)
    omega

theorem totalDays_monthLengths (year : Int) :
    totalDays (monthLengths year) = 365 + if IsLeap year then 1 else 0 := by
  by_cases h : IsLeap year
  · simp [monthLengths, totalDays, h]
  · simp [monthLengths, totalDays, h]

theorem daysBeforeYear_add_one (year : Int) :
    daysBeforeYear (year + 1) = daysBeforeYear year + totalDays (monthLengths year) := by
  rw [daysBeforeYear_succ, totalDays_monthLengths]
  by_cases h : IsLeap year
  · simp only [if_pos h]
    omega
  · simp only [if_neg h]
    omega

theorem bounds_of_mem_monthLengths {year : Int} : ∀ n ∈ monthLengths year, 28 ≤ n ∧ n ≤ 31 := by
  by_cases h : IsLeap year
  · simp [monthLengths, h]
  · simp [monthLengths, h]

theorem daysInMonth_le (year : Int) (m : Nat) : daysInMonth year m ≤ 31 := by
  cases m with
  | zero => exact Nat.zero_le _
  | succ m =>
    rw [daysInMonth]
    cases hn : (monthLengths year)[m]? with
    | none => exact Nat.zero_le _
    | some n => exact (bounds_of_mem_monthLengths n (List.mem_of_getElem? hn)).2

theorem daysInMonth_of_lt (year : Int) {m : Nat} (h : 12 < m) : daysInMonth year m = 0 := by
  cases m with
  | zero => rfl
  | succ m =>
    have none : (monthLengths year)[m]? = none := List.getElem?_eq_none (Nat.le_of_lt_succ h)
    rw [daysInMonth, none]
    rfl

theorem splitMonths_spec {months : List Nat} {day : Nat} (h : day < totalDays months) :
    totalDays (months.take (splitMonths months day).1) + (splitMonths months day).2 = day ∧
      (splitMonths months day).2 < months[(splitMonths months day).1]?.getD 0 := by
  induction months generalizing day with
  | nil => exact absurd h (Nat.not_lt_zero day)
  | cons n months ih =>
    simp only [splitMonths]
    split
    · next hn => simp [totalDays, hn]
    · next hn =>
      rw [totalDays] at h
      obtain ⟨sum, bound⟩ := ih (by omega : day - n < totalDays months)
      simp only [List.take_succ_cons, totalDays, List.getElem?_cons_succ]
      exact ⟨by omega, bound⟩

namespace Date

theorem Valid.month_le_and_day_le {d : Date} (h : d.Valid) : d.month ≤ 12 ∧ d.day ≤ 31 := by
  obtain ⟨first, last⟩ := h
  constructor
  · apply Nat.not_lt.mp
    intro hm
    rw [daysInMonth_of_lt _ hm] at last
    omega
  · exact Nat.le_trans last (daysInMonth_le _ _)

theorem valid_and_dayNumber_ofDayNumber (n : Int) :
    (ofDayNumber n).Valid ∧ (ofDayNumber n).dayNumber = n := by
  obtain ⟨lower, upper⟩ := yearOfDay_bounds (n + 719162)
  obtain ⟨year, hy⟩ : ∃ y, y = yearOfDay (n + 719162) := ⟨_, rfl⟩
  rw [← hy] at lower upper
  obtain ⟨left, hl⟩ : ∃ k : Nat, n + 719162 - daysBeforeYear year = k := Int.eq_ofNat_of_zero_le (by omega)
  have inYear : left < totalDays (monthLengths year) := by
    rw [daysBeforeYear_add_one] at upper
    omega
  obtain ⟨sum, bound⟩ := splitMonths_spec inYear
  have date : ofDayNumber n =
      ⟨year, (splitMonths (monthLengths year) left).1 + 1, (splitMonths (monthLengths year) left).2 + 1⟩ := by
    simp only [ofDayNumber, ← hy, hl, Int.toNat_natCast]
  rw [date]
  constructor
  · exact ⟨Nat.succ_pos _, bound⟩
  · simp only [dayNumber, daysBeforeMonth, Nat.add_sub_cancel]
    omega

theorem supported_ofDayNumber_iff {n : Int} :
    (ofDayNumber n).Supported ↔ -96465292 ≤ n ∧ n < 95026237 := by
  have first : daysBeforeYear (-262143) = -95746130 := by decide
  have last : daysBeforeYear 262143 = 95745399 := by decide
  have lower : -262143 ≤ yearOfDay (n + 719162) ↔ _ := le_yearOfDay_iff
  have upper : 262143 ≤ yearOfDay (n + 719162) ↔ _ := le_yearOfDay_iff
  have year : (ofDayNumber n).year = yearOfDay (n + 719162) := rfl
  simp only [Supported, year]
  omega

end Date

theorem TimeOfDay.valid_ofMillis {n : Nat} (h : n < 86400000) : (ofMillis n).Valid := by
  simp only [Valid, ofMillis]
  omega

theorem TimeOfDay.millis_ofMillis (n : Nat) : (ofMillis n).millis = n := by
  simp only [millis, ofMillis]
  omega

namespace Moment

theorem supported_ofEpochMillis_iff {n : Int} :
    (ofEpochMillis n).date.Supported ↔ -8334601228800000 ≤ n ∧ n ≤ 8210266876799999 := by
  simp only [ofEpochMillis, Date.supported_ofDayNumber_iff, millisPerDay]
  omega

theorem valid_ofEpochMillis {n : Int} (h : (ofEpochMillis n).date.Supported) : (ofEpochMillis n).Valid := by
  refine ⟨(Date.valid_and_dayNumber_ofDayNumber _).1, h, TimeOfDay.valid_ofMillis ?_⟩
  simp only [millisPerDay]
  omega

theorem epochMillis_ofEpochMillis (n : Int) : (ofEpochMillis n).epochMillis = n := by
  simp only [epochMillis, ofEpochMillis, (Date.valid_and_dayNumber_ofDayNumber _).2,
    TimeOfDay.millis_ofMillis, millisPerDay]
  omega

end Moment

end TimeWindow.Calendar
