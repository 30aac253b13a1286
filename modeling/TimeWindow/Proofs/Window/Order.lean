import TimeWindow.Resolution

namespace TimeWindow

theorem Word.clamp_mono {m n : Int} (h : m ≤ n) : clamp m ≤ clamp n := by
  rw [Int64.le_iff_toInt_le, toInt_clamp, toInt_clamp]
  omega

theorem Window.ext_toInt {v w : Window} (first : v.first.toInt = w.first.toInt)
    (last : v.last.toInt = w.last.toInt) : v = w :=
  congr (congrArg mk (Int64.toInt_inj.mp first)) (Int64.toInt_inj.mp last)

theorem Window.scale_mono {s t : Millis} (h : s ≤ t) : scale s ≤ scale t := by
  apply Word.clamp_mono
  rw [Int64.le_iff_toInt_le] at h
  simp only [nanosPerMilli]
  omega

theorem Window.isInverted_iff {w : Window} : w.isInverted ↔ w.last < w.first := decide_eq_true_iff

theorem Window.isInverted_eq_false_iff {w : Window} : w.isInverted = false ↔ w.first ≤ w.last := by
  rw [isInverted, decide_eq_false_iff_not, Int64.not_lt]

theorem Window.isInverted_ofMillis {s t : Millis} (h : s ≤ t) : (ofMillis s t).isInverted = false :=
  isInverted_eq_false_iff.mpr (scale_mono h)

theorem minutesBefore_le (now : Millis) {minutes : Int64} (h : 0 ≤ minutes.toInt) :
    minutesBefore now minutes ≤ now := by
  have present := Word.fits_toInt now
  simp only [Word.Fits] at present
  rw [Int64.le_iff_toInt_le, minutesBefore, Word.toInt_clamp, Word.toInt_clamp]
  simp only [millisPerMinute, Word.least, Word.greatest] at *
  omega

theorem Span.minutes_nonneg (s : Span) : 0 ≤ (Int64.ofNat s.minutes).toInt := by
  cases s <;> decide

theorem Span.isInverted_window (s : Span) (now : Millis) : (s.window now).isInverted = false :=
  Window.isInverted_ofMillis (minutesBefore_le now s.minutes_nonneg)

namespace Selector

variable {s : Selector} {bounds : Option Bounds} {clock : Clock}

theorem eq_custom_of_isInverted (h : (s.resolve bounds clock).value.isInverted) : s = custom := by
  cases s with
  | custom => rfl
  | last span =>
    have ordered : (span.window clock.now).isInverted = false := span.isInverted_window clock.now
    exact absurd (ordered.symm.trans h) Bool.false_ne_true

theorem inverted_mem_resolve_iff {start stop : Millis} :
    .inverted start stop ∈ (s.resolve bounds clock).events ↔
      s = custom ∧ (start, stop) = (bounds.getD .absent).filled ∧
        (s.resolve bounds clock).value.isInverted := by
  cases s with
  | last span => simp [resolve]
  | custom =>
    cases h : (bounds.getD .absent).window.isInverted <;> simp [resolve, h, Prod.ext_iff]

end Selector

end TimeWindow
