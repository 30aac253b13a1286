import Mathlib.Data.Int.Init
import TimeWindow.Proofs.Calendar.DayNumber

namespace TimeWindow.Calendar

theorem one_le_daysInMonth (year : Int) {m : Nat} (h : m < 12) : 1 ≤ daysInMonth year (m + 1) := by
  have inYear : m < (monthLengths year).length := h
  rw [daysInMonth, List.getElem?_eq_getElem inYear]
  exact Nat.le_trans (by decide) (bounds_of_mem_monthLengths _ (List.getElem_mem inYear)).1

theorem daysInMonth_eq (year : Int) :
    (List.range' 1 12).map (daysInMonth year) =
      [31, if (4 ∣ year ∧ ¬ 100 ∣ year) ∨ 400 ∣ year then 29 else 28, 31, 30, 31, 30, 31, 31, 30, 31, 30, 31] := by
  have rule : IsLeap year ↔ (4 ∣ year ∧ ¬ 100 ∣ year) ∨ 400 ∣ year := by
    unfold IsLeap
    omega
  simp only [← rule]
  rfl

theorem totalDays_take_succ (months : List Nat) (m : Nat) :
    totalDays (months.take (m + 1)) = totalDays (months.take m) + months[m]?.getD 0 := by
  induction months generalizing m with
  | nil => simp
  | cons n months ih =>
    cases m with
    | zero => simp [totalDays]
    | succ m => simp [totalDays, ih, Nat.add_assoc]

theorem daysBeforeMonth_succ (year : Int) (m : Nat) :
    daysBeforeMonth year (m + 2) = daysBeforeMonth year (m + 1) + daysInMonth year (m + 1) :=
  totalDays_take_succ _ m

theorem splitMonths_add {months : List Nat} {m rest : Nat} (h : rest < months[m]?.getD 0) :
    splitMonths months (totalDays (months.take m) + rest) = (m, rest) ∧
      totalDays (months.take m) + rest < totalDays months := by
  induction months generalizing m with
  | nil => exact absurd h (Nat.not_lt_zero rest)
  | cons n months ih =>
    cases m with
    | zero =>
      have inFirst : rest < n := h
      simp [splitMonths, totalDays, inFirst]
      omega
    | succ m =>
      obtain ⟨split, bound⟩ := ih h
      have later : ¬ n + totalDays (months.take m) + rest < n := by omega
      have left : n + totalDays (months.take m) + rest - n = totalDays (months.take m) + rest := by omega
      simp only [List.take_succ_cons, totalDays, splitMonths, if_neg later, left, split, true_and]
      omega

namespace Date

variable {d e : Date} {n : Int}

theorem Valid.exists_eq (h : d.Valid) :
    ∃ m rest, d = ⟨d.year, m + 1, rest + 1⟩ ∧ m < 12 ∧ rest < daysInMonth d.year (m + 1) := by
  have month := h.month_le_and_day_le.1
  obtain ⟨year, _ | m, day⟩ := d
  · exact absurd (Nat.le_trans h.1 h.2) (Nat.not_succ_le_zero 0)
  · obtain ⟨rest, rfl⟩ : ∃ rest, day = rest + 1 := Nat.exists_eq_add_of_le' h.1
    exact ⟨m, rest, rfl, month, h.2⟩

theorem ofDayNumber_dayNumber (h : d.Valid) : ofDayNumber d.dayNumber = d := by
  obtain ⟨m, rest, hd, -, inMonth⟩ := h.exists_eq
  obtain ⟨year, hy⟩ : ∃ year, year = d.year := ⟨_, rfl⟩
  rw [← hy] at hd inMonth
  have inMonths : rest < (monthLengths year)[m]?.getD 0 := inMonth
  obtain ⟨split, bound⟩ := splitMonths_add inMonths
  obtain ⟨k, hk⟩ : ∃ k, k = totalDays ((monthLengths year).take m) + rest := ⟨_, rfl⟩
  rw [← hk] at split bound
  have number : d.dayNumber + 719162 = daysBeforeYear year + k := by
    simp only [hd, dayNumber, daysBeforeMonth, Nat.add_sub_cancel, hk]
    omega
  have yearOf : yearOfDay (daysBeforeYear year + k) = year := by
    have lower : year ≤ yearOfDay (daysBeforeYear year + k) := le_yearOfDay_iff.mpr (by omega)
    have upper : ¬ year + 1 ≤ yearOfDay (daysBeforeYear year + k) := by
      rw [le_yearOfDay_iff, daysBeforeYear_add_one]
      omega
    omega
  have inYear : (daysBeforeYear year + k - daysBeforeYear year).toNat = k := by omega
  rw [ofDayNumber]
  simp only [number, yearOf, inYear, split]
  exact hd.symm

theorem dayNumber_injective (hd : d.Valid) (he : e.Valid) (h : d.dayNumber = e.dayNumber) : d = e := by
  rw [← ofDayNumber_dayNumber hd, h, ofDayNumber_dayNumber he]

def next (d : Date) : Date :=
  if d.day < daysInMonth d.year d.month then { d with day := d.day + 1 }
  else if d.month < 12 then ⟨d.year, d.month + 1, 1⟩
  else ⟨d.year + 1, 1, 1⟩

theorem valid_and_dayNumber_next (h : d.Valid) : d.next.Valid ∧ d.next.dayNumber = d.dayNumber + 1 := by
  obtain ⟨m, rest, hd, month, inMonth⟩ := h.exists_eq
  obtain ⟨year, hy⟩ : ∃ year, year = d.year := ⟨_, rfl⟩
  rw [← hy] at hd inMonth
  rw [hd]
  by_cases goesOn : rest + 1 < daysInMonth year (m + 1)
  · rw [next, if_pos goesOn]
    refine ⟨⟨Nat.succ_pos _, goesOn⟩, ?_⟩
    simp only [dayNumber]
    omega
  · have length : daysInMonth year (m + 1) = rest + 1 := by omega
    rw [next, if_neg goesOn]
    by_cases later : m + 1 < 12
    · rw [if_pos later]
      refine ⟨⟨Nat.le_refl 1, one_le_daysInMonth year later⟩, ?_⟩
      simp only [dayNumber, daysBeforeMonth_succ, length]
      omega
    · obtain rfl : m = 11 := by omega
      rw [if_neg later]
      refine ⟨⟨Nat.le_refl 1, one_le_daysInMonth (year + 1) (by decide)⟩, ?_⟩
      have months : totalDays (monthLengths year) = daysBeforeMonth year 12 + (rest + 1) := by
        rw [← length]
        exact daysBeforeMonth_succ year 11
      have january : daysBeforeMonth (year + 1) 1 = 0 := rfl
      simp only [dayNumber, january, daysBeforeYear_add_one, months, Nat.reduceAdd]
      omega

/-- Days counted one by one from the first of January 1970, forwards and backwards. -/
inductive Counted : Date → Int → Prop
  | start : Counted ⟨1970, 1, 1⟩ 0
  | after {d : Date} {n : Int} : Counted d n → Counted d.next (n + 1)
  | before {d : Date} {n : Int} : d.Valid → Counted d.next n → Counted d (n - 1)

theorem Counted.valid_and_dayNumber (h : d.Counted n) : d.Valid ∧ d.dayNumber = n := by
  induction h with
  | start => decide
  | after _ ih =>
    obtain ⟨valid, number⟩ := valid_and_dayNumber_next ih.1
    exact ⟨valid, by rw [number, ih.2]⟩
  | before valid _ ih =>
    have number := (valid_and_dayNumber_next valid).2
    exact ⟨valid, by omega⟩

theorem counted_dayNumber (h : d.Valid) : d.Counted d.dayNumber := by
  obtain ⟨n, hn⟩ : ∃ n, n = d.dayNumber := ⟨_, rfl⟩
  rw [← hn]
  induction n generalizing d with
  | zero =>
    rw [dayNumber_injective h (e := ⟨1970, 1, 1⟩) (by decide) hn.symm]
    exact .start
  | succ n ih =>
    obtain ⟨valid, number⟩ := valid_and_dayNumber_ofDayNumber n
    obtain ⟨nextValid, nextNumber⟩ := valid_and_dayNumber_next valid
    rw [← dayNumber_injective nextValid h (by rw [nextNumber, number, hn])]
    exact .after (ih valid number.symm)
  | pred n ih =>
    obtain ⟨valid, number⟩ := valid_and_dayNumber_next h
    exact .before h (ih valid (by omega))

theorem counted_iff : d.Counted n ↔ d.Valid ∧ d.dayNumber = n := by
  constructor
  · exact Counted.valid_and_dayNumber
  · rintro ⟨valid, rfl⟩
    exact counted_dayNumber valid

end Date

end TimeWindow.Calendar
