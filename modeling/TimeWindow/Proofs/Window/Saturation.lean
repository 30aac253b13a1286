import TimeWindow.Proofs.Window.Request

namespace TimeWindow

namespace Word

variable {m n : Int}

theorem clamp_sub_clamp_le (h : m ≤ n) : (clamp n).toInt - (clamp m).toInt ≤ n - m := by
  rw [toInt_clamp, toInt_clamp]
  simp only [least, greatest]
  omega

theorem clamp_sub_clamp_eq_iff (h : m < n) :
    (clamp n).toInt - (clamp m).toInt = n - m ↔ least ≤ m ∧ n ≤ greatest := by
  rw [toInt_clamp, toInt_clamp]
  simp only [least, greatest]
  omega

end Word

namespace Window

variable {s t : Millis} {w : Window}

theorem toInt_scale (t : Millis) :
    (scale t).toInt = max Word.least (min (t.toInt * nanosPerMilli) Word.greatest) := Word.toInt_clamp _

theorem scale_clamp (n : Int) : scale (Word.clamp n) = Word.clamp (n * nanosPerMilli) := by
  rw [← Int64.toInt_inj, toInt_scale, Word.toInt_clamp, Word.toInt_clamp]
  simp only [nanosPerMilli, Word.least, Word.greatest]
  omega

/-- Both instants are too far from 1970 for the scale, on the same side. -/
def SaturatedAlike (s t : Millis) : Prop :=
  9223372036855 ≤ s.toInt ∧ 9223372036855 ≤ t.toInt ∨
    s.toInt ≤ -9223372036855 ∧ t.toInt ≤ -9223372036855

instance (s t : Millis) : Decidable (SaturatedAlike s t) := inferInstanceAs (Decidable (_ ∨ _))

theorem scale_lt_scale_iff : scale s < scale t ↔ s < t ∧ ¬ SaturatedAlike t s := by
  rw [Int64.lt_iff_toInt_lt, Int64.lt_iff_toInt_lt, toInt_scale, toInt_scale]
  simp only [SaturatedAlike, nanosPerMilli, Word.least, Word.greatest]
  omega

theorem length_eq (ordered : w.first ≤ w.last) (h : w.last.toInt - w.first.toInt ≤ Word.greatest) :
    (w.length : Int) = w.last.toInt - w.first.toInt := by
  rw [Int64.le_iff_toInt_le] at ordered
  rw [length, Word.toInt_clamp_of_fits]
  · omega
  · simp only [Word.Fits, Word.least]
    omega

end Window

def Report.TellsInverted {α : Type} (r : Report α) : Prop := ∃ start stop, .inverted start stop ∈ r.events

namespace Bounds

variable {b : Bounds} {s t : Millis}

theorem tellsInverted_resolve_iff (b : Bounds) (clock : Clock) :
    (Selector.custom.resolve (some b) clock).TellsInverted ↔ b.window.last < b.window.first := by
  rw [← Window.isInverted_iff]
  constructor
  · rintro ⟨start, stop, h⟩
    exact (Selector.inverted_mem_resolve_iff.mp h).2.2
  · intro h
    exact ⟨_, _, Selector.inverted_mem_resolve_iff.mpr ⟨rfl, rfl, h⟩⟩

theorem window_inverted_iff (b : Bounds) :
    b.window.last < b.window.first ↔ b.filled.2 < b.filled.1 ∧ ¬ Window.SaturatedAlike b.filled.1 b.filled.2 :=
  Window.scale_lt_scale_iff

/-- It is the scaled bounds that decide whether a custom window is told to be inverted, and the bounds themselves that
the check refuses.  The two differ only where the scale stops both bounds at the same end. -/
theorem inverted_told_unless_saturated_alike (b : Bounds) (clock : Clock) :
    ∃ report, Selector.custom.resolve (some b) clock = report ∧
      report.value.first.toInt = max Word.least (min (b.filled.1.toInt * 1000000) Word.greatest) ∧
      report.value.last.toInt = max Word.least (min (b.filled.2.toInt * 1000000) Word.greatest) ∧
      report.clock = clock ∧
      (report.TellsInverted ↔ report.value.last < report.value.first) ∧
      (report.TellsInverted → b.filled.2 < b.filled.1) ∧
      (b.filled.2 < b.filled.1 → (¬ report.TellsInverted ↔ Window.SaturatedAlike b.filled.1 b.filled.2)) ∧
      (∀ s t, b.check = .ok (s, t) → ¬ report.TellsInverted ∧ report.value.first ≤ report.value.last) ∧
      ∀ s t, b.check = .error (.inverted s t) → (¬ report.TellsInverted ↔ Window.SaturatedAlike s t) := by
  have told := tellsInverted_resolve_iff b clock
  have region := told.trans (window_inverted_iff b)
  refine ⟨_, rfl, Window.toInt_scale _, Window.toInt_scale _, rfl, told, ?_, ?_, ?_, ?_⟩
  · intro h
    exact (region.mp h).1
  · intro h
    rw [region, not_and_not_right, imp_iff_right h]
  · intro s t h
    obtain ⟨rfl, ordered⟩ := check_eq_ok_iff.mp h
    have first_le_last : Window.scale s ≤ Window.scale t := Window.scale_mono ordered
    exact ⟨fun hi => Int64.not_lt.mpr first_le_last (told.mp hi), first_le_last⟩
  · intro s t h
    obtain ⟨rfl, inverted⟩ := check_eq_inverted_iff.mp h
    rw [region, not_and_not_right]
    exact imp_iff_right inverted

theorem inverted_told_at_the_last_scaled_instant :
    Bounds.check ⟨some 9223372036856, some 9223372036855⟩ =
        .error (.inverted 9223372036856 9223372036855) ∧
      ¬ (Selector.custom.resolve (some ⟨some 9223372036856, some 9223372036855⟩) (.fixed 0)).TellsInverted ∧
      (Selector.custom.resolve (some ⟨some 9223372036855, some 9223372036854⟩) (.fixed 0)).TellsInverted ∧
      Bounds.check ⟨some 9223372036854, some 9223372036855⟩ = .ok (9223372036854, 9223372036855) ∧
      ¬ (Selector.custom.resolve (some ⟨some 9223372036854, some 9223372036855⟩) (.fixed 0)).TellsInverted := by
  refine ⟨rfl, ?_, ?_, rfl, ?_⟩
  · obtain ⟨_, rfl, -, -, -, -, -, -, -, unnoticed⟩ :=
      inverted_told_unless_saturated_alike ⟨some 9223372036856, some 9223372036855⟩ (.fixed 0)
    exact (unnoticed _ _ rfl).mpr (by decide)
  · obtain ⟨_, rfl, -, -, -, -, -, unnoticed, -⟩ :=
      inverted_told_unless_saturated_alike ⟨some 9223372036855, some 9223372036854⟩ (.fixed 0)
    exact not_not.mp fun h => absurd ((unnoticed (by decide)).mp h) (by decide)
  · obtain ⟨_, rfl, -, -, -, -, -, -, accepted, -⟩ :=
      inverted_told_unless_saturated_alike ⟨some 9223372036854, some 9223372036855⟩ (.fixed 0)
    exact (accepted _ _ rfl).1

end Bounds

theorem minutesBefore_eq_clamp {now : Millis} {minutes : Int64}
    (h : Word.Fits (minutes.toInt * millisPerMinute)) :
    minutesBefore now minutes = Word.clamp (now.toInt - minutes.toInt * millisPerMinute) := by
  rw [minutesBefore, Word.toInt_clamp_of_fits h]

namespace Span

theorem one_le_minutes_and_le (s : Span) : 1 ≤ s.minutes ∧ s.minutes ≤ 86400 := by
  cases s <;> decide

theorem toInt_minutes (s : Span) : (Int64.ofNat s.minutes).toInt = s.minutes := by
  cases s <;> rfl

theorem minutesBefore_minutes (s : Span) (now : Millis) :
    minutesBefore now (Int64.ofNat s.minutes) = Word.clamp (now.toInt - 60000 * s.minutes) := by
  have bounds := s.one_le_minutes_and_le
  rw [minutesBefore_eq_clamp, toInt_minutes, Int.mul_comm]
  · rfl
  · rw [toInt_minutes]
    simp only [Word.Fits, Word.least, Word.greatest, millisPerMinute]
    omega

theorem first_window (s : Span) (now : Millis) :
    (s.window now).first = Word.clamp ((now.toInt - 60000 * s.minutes) * nanosPerMilli) := by
  rw [← Window.scale_clamp, ← minutesBefore_minutes]
  rfl

theorem last_window (s : Span) (now : Millis) :
    (s.window now).last = Word.clamp (now.toInt * nanosPerMilli) := rfl

theorem nanos_between_bounds (s : Span) (now : Millis) :
    now.toInt * nanosPerMilli - (now.toInt - 60000 * s.minutes) * nanosPerMilli =
      (s.minutes * 60 * 1000000000 : Nat) := by
  simp only [nanosPerMilli]
  omega

theorem length_window (s : Span) (now : Millis) :
    ((s.window now).length : Int) = (s.window now).last.toInt - (s.window now).first.toInt ∧
      (s.window now).length ≤ s.minutes * 60 * 1000000000 := by
  have bounds := s.one_le_minutes_and_le
  have nanos := s.nanos_between_bounds now
  have short := Word.clamp_sub_clamp_le (m := (now.toInt - 60000 * s.minutes) * nanosPerMilli)
    (n := now.toInt * nanosPerMilli) (by omega)
  rw [← first_window, ← last_window, nanos] at short
  have fits : ((s.minutes * 60 * 1000000000 : Nat) : Int) ≤ Word.greatest := by
    simp only [Word.greatest]
    omega
  have length := Window.length_eq (Window.isInverted_eq_false_iff.mp (s.isInverted_window now))
    (Int.le_trans short fits)
  exact ⟨length, by omega⟩

def InScale (s : Span) (now : Millis) : Prop :=
  now.toInt ≤ 9223372036854 ∧ -9223372036854 ≤ now.toInt - 60000 * s.minutes

instance (s : Span) (now : Millis) : Decidable (s.InScale now) := inferInstanceAs (Decidable (_ ∧ _))

theorem length_window_eq_iff (s : Span) (now : Millis) :
    (s.window now).length = s.minutes * 60 * 1000000000 ↔ s.InScale now := by
  have bounds := s.one_le_minutes_and_le
  have nanos := s.nanos_between_bounds now
  rw [← Int.natCast_inj, (s.length_window now).1, ← nanos, first_window, last_window,
    Word.clamp_sub_clamp_eq_iff (by omega)]
  simp only [InScale, nanosPerMilli, Word.least, Word.greatest]
  omega

/-- Each bound of the window of a span is exact or stops once.  The window has the length of the span just where
neither bound stops, and is shorter everywhere else. -/
theorem span_window_stops_once (s : Span) (bounds : Option Bounds) (clock : Clock) :
    ∃ w, ((Selector.last s).resolve bounds clock).value = w ∧
      w.last.toInt = max Word.least (min (clock.now.toInt * 1000000) Word.greatest) ∧
      w.first.toInt =
        max Word.least (min ((clock.now.toInt - 60000 * s.minutes) * 1000000) Word.greatest) ∧
      w.isInverted = false ∧
      (w.length : Int) = w.last.toInt - w.first.toInt ∧
      (w.length = s.minutes * 60 * 1000000000 ↔ s.InScale clock.now) ∧
      (¬ s.InScale clock.now → w.length < s.minutes * 60 * 1000000000) := by
  have exact_iff := s.length_window_eq_iff clock.now
  obtain ⟨length, le⟩ := s.length_window clock.now
  refine ⟨s.window clock.now, rfl, Window.toInt_scale _, ?_, s.isInverted_window _, length, exact_iff, ?_⟩
  · rw [first_window, Word.toInt_clamp]
    rfl
  · intro outside
    exact Nat.lt_of_le_of_ne le (mt exact_iff.mp outside)

theorem hour_falls_short_past_the_scale :
    ((Selector.last .hr1).resolve none (.fixed 9223372036854)).value.length = 3600000000000 ∧
      ((Selector.last .hr1).resolve none (.fixed 9223372036855)).value.length < 3600000000000 := by
  obtain ⟨_, rfl, -, -, -, -, kept, -⟩ := span_window_stops_once hr1 none (.fixed 9223372036854)
  obtain ⟨_, rfl, -, -, -, -, -, short⟩ := span_window_stops_once hr1 none (.fixed 9223372036855)
  exact ⟨kept.mpr (by decide), short (by decide)⟩

end Span

end TimeWindow
