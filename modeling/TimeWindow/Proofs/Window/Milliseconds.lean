import TimeWindow.Proofs.Window.Saturation

namespace TimeWindow

namespace Window

variable {t u : Nanos} {s : Millis} {w : Window}

def inMillis (w : Window) : Window := ofMillis w.firstMillis w.lastMillis

/-- From `t` to `u` a bound moves towards 1970 by less than a millisecond. -/
def Settles (t u : Nanos) : Prop :=
  (0 ≤ u.toInt ∧ u.toInt ≤ t.toInt ∨ t.toInt ≤ u.toInt ∧ u.toInt ≤ 0) ∧
    (t.toInt - u.toInt).natAbs < 1000000

def InScale (s : Millis) : Prop := -9223372036854 ≤ s.toInt ∧ s.toInt ≤ 9223372036854

instance (s : Millis) : Decidable (InScale s) := inferInstanceAs (Decidable (_ ∧ _))

theorem toInt_truncate_cases (t : Nanos) :
    0 ≤ t.toInt ∧ (truncate t).toInt = t.toInt / 1000000 ∨
      t.toInt < 0 ∧ (truncate t).toInt = -(-t.toInt / 1000000) := by
  have quotient : (truncate t).toInt = t.toInt.tdiv 1000000 := Int64.toInt_div_of_ne_right _ _ (by decide)
  by_cases h : 0 ≤ t.toInt
  · exact .inl ⟨h, quotient.trans (Int.tdiv_eq_ediv_of_nonneg h)⟩
  · have mirrored : (-t.toInt).tdiv 1000000 = -t.toInt / 1000000 := Int.tdiv_eq_ediv_of_nonneg (by omega)
    rw [Int.neg_tdiv] at mirrored
    exact .inr ⟨by omega, by rw [quotient, ← mirrored, Int.neg_neg]⟩

theorem toInt_scale_truncate (t : Nanos) : (scale (truncate t)).toInt = (truncate t).toInt * 1000000 := by
  apply Word.toInt_clamp_of_fits
  have fits := Word.fits_toInt t
  have cases := toInt_truncate_cases t
  simp only [Word.Fits, Word.least, Word.greatest, nanosPerMilli] at *
  omega

theorem truncate_scale_truncate (t : Nanos) : truncate (scale (truncate t)) = truncate t := by
  have whole := toInt_scale_truncate t
  have cases := toInt_truncate_cases (scale (truncate t))
  rw [← Int64.toInt_inj]
  omega

theorem settles_scale_truncate (t : Nanos) : Settles t (scale (truncate t)) := by
  have whole := toInt_scale_truncate t
  have cases := toInt_truncate_cases t
  simp only [Settles]
  omega

theorem truncate_mono (h : t ≤ u) : truncate t ≤ truncate u := by
  have first := toInt_truncate_cases t
  have last := toInt_truncate_cases u
  rw [Int64.le_iff_toInt_le] at h ⊢
  omega

theorem scale_truncate_eq_self_iff (t : Nanos) : scale (truncate t) = t ↔ 1000000 ∣ t.toInt := by
  have whole := toInt_scale_truncate t
  have cases := toInt_truncate_cases t
  rw [← Int64.toInt_inj]
  omega

theorem dvd_scale_iff (s : Millis) : 1000000 ∣ (scale s).toInt ↔ InScale s := by
  rw [toInt_scale]
  simp only [InScale, nanosPerMilli, Word.least, Word.greatest]
  omega

theorem inScale_iff (s : Millis) : InScale s ↔ scale s ∉ [Int64.minValue, Int64.maxValue] := by
  have least : Int64.minValue.toInt = Word.least := rfl
  have greatest : Int64.maxValue.toInt = Word.greatest := rfl
  simp only [List.mem_cons, List.not_mem_nil, or_false, ← Int64.toInt_inj, least, greatest, toInt_scale]
  simp only [InScale, nanosPerMilli, Word.least, Word.greatest]
  omega

theorem firstMillis_inMillis (w : Window) : w.inMillis.firstMillis = w.firstMillis := truncate_scale_truncate w.first

theorem lastMillis_inMillis (w : Window) : w.inMillis.lastMillis = w.lastMillis := truncate_scale_truncate w.last

theorem inMillis_inMillis (w : Window) : w.inMillis.inMillis = w.inMillis :=
  calc w.inMillis.inMillis = ofMillis w.inMillis.firstMillis w.inMillis.lastMillis := rfl
    _ = ofMillis w.firstMillis w.lastMillis := by rw [firstMillis_inMillis, lastMillis_inMillis]

theorem isInverted_inMillis (h : w.isInverted = false) : w.inMillis.isInverted = false :=
  isInverted_ofMillis (truncate_mono (isInverted_eq_false_iff.mp h))

theorem inMillis_eq_self_iff (w : Window) : w.inMillis = w ↔ 1000000 ∣ w.first.toInt ∧ 1000000 ∣ w.last.toInt := by
  rw [← scale_truncate_eq_self_iff, ← scale_truncate_eq_self_iff]
  obtain ⟨first, last⟩ := w
  exact Iff.of_eq (Window.mk.injEq ..)

theorem inMillis_ofMillis_eq_iff (first last : Millis) :
    (ofMillis first last).inMillis = ofMillis first last ↔ InScale first ∧ InScale last := by
  rw [inMillis_eq_self_iff]
  exact and_congr (dvd_scale_iff first) (dvd_scale_iff last)

end Window

namespace Selector

open Window

def instants (s : Selector) (bounds : Option Bounds) (clock : Clock) : Millis × Millis :=
  match s with
  | last span => (minutesBefore clock.now (Int64.ofNat span.minutes), clock.now)
  | custom => (bounds.getD .absent).filled

theorem value_resolve (s : Selector) (bounds : Option Bounds) (clock : Clock) :
    (s.resolve bounds clock).value = ofMillis (s.instants bounds clock).1 (s.instants bounds clock).2 := by
  cases s with
  | last span => rfl
  | custom => rfl

/-- To name a window in milliseconds is a projection, exact in them, and moves each bound towards 1970 within its
millisecond.  What a selector resolved to is resolved to its projection from then on, and is its own projection just
where the scale did not stop. -/
theorem windows_project_to_milliseconds :
    (∀ w : Window,
      w.inMillis.first.toInt = w.firstMillis.toInt * 1000000 ∧
      w.inMillis.last.toInt = w.lastMillis.toInt * 1000000 ∧
      w.inMillis.firstMillis = w.firstMillis ∧ w.inMillis.lastMillis = w.lastMillis ∧
      Settles w.first w.inMillis.first ∧ Settles w.last w.inMillis.last ∧
      w.inMillis.inMillis = w.inMillis ∧
      (w.isInverted = false → w.inMillis.isInverted = false) ∧
      (w.inMillis = w ↔ 1000000 ∣ w.first.toInt ∧ 1000000 ∣ w.last.toInt)) ∧
    ∀ (s : Selector) (bounds : Option Bounds) (clock later : Clock), ∃ w,
      (s.resolve bounds clock).value = w ∧
      w = ofMillis (s.instants bounds clock).1 (s.instants bounds clock).2 ∧
      (custom.resolve (some ⟨some w.firstMillis, some w.lastMillis⟩) later).value = w.inMillis ∧
      (w.inMillis = w ↔
        w.first ∉ [Int64.minValue, Int64.maxValue] ∧ w.last ∉ [Int64.minValue, Int64.maxValue]) ∧
      (w.inMillis = w ↔ InScale (s.instants bounds clock).1 ∧ InScale (s.instants bounds clock).2) := by
  constructor
  · intro w
    exact ⟨toInt_scale_truncate w.first, toInt_scale_truncate w.last, w.firstMillis_inMillis,
      w.lastMillis_inMillis, settles_scale_truncate w.first, settles_scale_truncate w.last,
      w.inMillis_inMillis, isInverted_inMillis, w.inMillis_eq_self_iff⟩
  · intro s bounds clock later
    have kept := inMillis_ofMillis_eq_iff (s.instants bounds clock).1 (s.instants bounds clock).2
    exact ⟨_, value_resolve s bounds clock, rfl, rfl,
      kept.trans (and_congr (inScale_iff _) (inScale_iff _)), kept⟩

theorem hour_is_its_projection_in_scale :
    Window.isInverted ⟨-1500000, 999999⟩ = false ∧ (Window.inMillis ⟨-1500000, 999999⟩).isInverted = false ∧
      (∃ w, ((last .hr1).resolve none (.fixed 9223372036854)).value = w ∧ w.inMillis = w) ∧
      ∃ w, ((last .hr1).resolve none (.fixed 9223372036855)).value = w ∧ w.inMillis ≠ w := by
  obtain ⟨-, -, -, -, -, -, -, ordered, -⟩ := windows_project_to_milliseconds.1 ⟨-1500000, 999999⟩
  refine ⟨rfl, ordered rfl, ?_, ?_⟩
  · obtain ⟨w, resolved, -, -, -, kept⟩ :=
      windows_project_to_milliseconds.2 (last .hr1) none (.fixed 9223372036854) (.fixed 0)
    exact ⟨w, resolved, kept.mpr (by decide)⟩
  · obtain ⟨w, resolved, -, -, -, kept⟩ :=
      windows_project_to_milliseconds.2 (last .hr1) none (.fixed 9223372036855) (.fixed 0)
    exact ⟨w, resolved, fun h => absurd (kept.mp h) (by decide)⟩

end Selector

end TimeWindow
