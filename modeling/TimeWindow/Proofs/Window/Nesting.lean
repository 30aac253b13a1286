import TimeWindow.Proofs.Window.Saturation

namespace TimeWindow

namespace Word

variable {m n : Int}

theorem clamp_eq_minValue_iff : clamp n = Int64.minValue ↔ n ≤ least := by
  have word : Int64.minValue.toInt = least := rfl
  rw [← Int64.toInt_inj, toInt_clamp, word]
  simp only [least, greatest]
  omega

theorem clamp_eq_maxValue_iff : clamp n = Int64.maxValue ↔ greatest ≤ n := by
  have word : Int64.maxValue.toInt = greatest := rfl
  rw [← Int64.toInt_inj, toInt_clamp, word]
  simp only [least, greatest]
  omega

theorem clamp_eq_clamp_iff (h : m < n) :
    clamp m = clamp n ↔
      clamp n = Int64.maxValue ∧ clamp m = Int64.maxValue ∨ clamp n = Int64.minValue ∧ clamp m = Int64.minValue := by
  rw [clamp_eq_maxValue_iff, clamp_eq_maxValue_iff, clamp_eq_minValue_iff, clamp_eq_minValue_iff, ← Int64.toInt_inj,
    toInt_clamp, toInt_clamp]
  simp only [least, greatest]
  omega

end Word

namespace Selector

variable {a b s : Span} {now later : Millis}

theorem menu_sorted : (menu.filterMap minutes?).Pairwise (· < ·) := by decide

theorem minutes_lt_of_sublist_menu (h : [last a, last b].Sublist menu) : a.minutes < b.minutes :=
  List.pairwise_iff_forall_sublist.mp menu_sorted (h.filterMap minutes?)

theorem exact_first_lt (h : a.minutes < b.minutes) (now : Millis) :
    (now.toInt - 60000 * b.minutes) * nanosPerMilli < (now.toInt - 60000 * a.minutes) * nanosPerMilli := by
  simp only [nanosPerMilli]
  omega

theorem window_le_window (s : Span) (h : now ≤ later) :
    (s.window now).first ≤ (s.window later).first ∧ (s.window now).last ≤ (s.window later).last := by
  refine ⟨?_, Window.scale_mono h⟩
  rw [Int64.le_iff_toInt_le] at h
  rw [Span.first_window, Span.first_window]
  apply Word.clamp_mono
  simp only [nanosPerMilli]
  omega

/-- The windows of the menu nest: of two spans at one instant the one further down ends with the other and begins before
it, unless the words stop both of them at one end.  A window never goes back as the clock goes on. -/
theorem menu_windows_nest (bounds : Option Bounds) (clock : Clock) :
    (∀ a b : Span, [last a, last b].Sublist menu → ∃ v w,
      ((last a).resolve bounds clock).value = v ∧ ((last b).resolve bounds clock).value = w ∧
      w.last = v.last ∧ w.first ≤ v.first ∧
      (w.first = v.first ↔
        v.first = Int64.maxValue ∧ w.first = Int64.maxValue ∨ v.first = Int64.minValue ∧ w.first = Int64.minValue)) ∧
    ∀ (s : Span) (later : Clock), clock.now ≤ later.now → ∃ v w,
      ((last s).resolve bounds clock).value = v ∧ ((last s).resolve bounds later).value = w ∧
      v.first ≤ w.first ∧ v.last ≤ w.last := by
  constructor
  · intro a b h
    have longer := exact_first_lt (minutes_lt_of_sublist_menu h) clock.now
    refine ⟨a.window clock.now, b.window clock.now, rfl, rfl, ?_, ?_, ?_⟩
    · rw [Span.last_window, Span.last_window]
    · rw [Span.first_window, Span.first_window]
      exact Word.clamp_mono (Int.le_of_lt longer)
    · rw [Span.first_window, Span.first_window]
      exact Word.clamp_eq_clamp_iff longer
  · intro s later h
    exact ⟨_, _, rfl, rfl, window_le_window s h⟩

theorem week_within_ten_days :
    [last .week1, last .day10].Sublist menu ∧
      ((last .day10).resolve none (.fixed 0)).value.first ≠ ((last .week1).resolve none (.fixed 0)).value.first ∧
      ((last .day10).resolve none (.fixed Int64.minValue)).value.first =
        ((last .week1).resolve none (.fixed Int64.minValue)).value.first ∧
      ((last .week1).resolve none (.fixed Int64.minValue)).value.first ≤
        ((last .week1).resolve none (.fixed 0)).value.first := by
  have before : [last .week1, last .day10].Sublist menu := by decide
  refine ⟨before, ?_, ?_, ?_⟩
  · obtain ⟨_, _, rfl, rfl, -, -, alike⟩ := (menu_windows_nest none (.fixed 0)).1 _ _ before
    exact fun h => absurd (alike.mp h) (by decide)
  · obtain ⟨_, _, rfl, rfl, -, -, alike⟩ := (menu_windows_nest none (.fixed Int64.minValue)).1 _ _ before
    exact alike.mpr (by decide)
  · obtain ⟨_, _, rfl, rfl, first, -⟩ :=
      (menu_windows_nest none (.fixed Int64.minValue)).2 .week1 (.fixed 0) (by decide)
    exact first

end Selector

end TimeWindow
