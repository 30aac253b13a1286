import TimeWindow.Proofs.Window.Spelled

namespace TimeWindow

namespace Endpoint

variable {text : String} {offset : Nat}

/-- The text says so many milliseconds ago, and a word holds them.  One that spells more than that is no endpoint. -/
def GoesBack (text : String) (offset : Nat) : Prop := SpellsAgo text offset ∧ Word.Fits offset

theorem exists_goesBack_iff : (∃ offset, GoesBack text offset) ↔ HeldAgo (Text.trim text.toList) := by
  constructor
  · rintro ⟨_, ⟨n, unit, written, rfl⟩, held⟩
    exact ⟨n, unit, written, fits_of_fits_mul written held, held⟩
  · rintro ⟨n, unit, written, -, held⟩
    exact ⟨n * unit, ⟨n, unit, written, rfl⟩, held⟩

theorem GoesBack.read_eq (h : GoesBack text offset) {clock : Clock} {t : Millis}
    (ht : t.toInt = clock.now.toInt - offset) : read text clock = (.ok t, clock.tick) := by
  have held : Word.Fits (clock.now.toInt - offset) := ht ▸ Word.fits_toInt t
  rw [read_of_spellsAgo h.1 h.2 held, ← ht, Word.clamp_toInt]

end Endpoint

namespace Bounds

open Endpoint

variable {start stop : String} {a b : Nat} {clock : Clock} {s t : Millis}

theorem filter_both (s t : Millis) (strict : Bool) :
    filter strict ⟨some s, some t⟩ =
      if strict = true ∧ t < s then .error (.bounds (.inverted s t)) else .ok (some ⟨some s, some t⟩) := by
  split
  · next h => exact filter_eq_error_iff.mpr ⟨h.1, _, check_eq_inverted_iff.mpr ⟨rfl, h.2⟩, rfl⟩
  · next h =>
    refine filter_eq_ok_iff.mpr ⟨(given?_of_start rfl).symm, fun strictly => ⟨(s, t), ?_⟩⟩
    exact check_eq_ok_iff.mpr ⟨rfl, Int64.not_lt.mp fun inverted => h ⟨strictly, inverted⟩⟩

theorem filter_strict_eq_error_iff {f : Failure} :
    filter true ⟨some s, some t⟩ = .error f ↔ f = .bounds (.inverted s t) ∧ t < s := by
  by_cases h : t < s <;> simp [filter_both, h, eq_comm]

theorem filter_strict_eq_ok_iff {c : Option Bounds} :
    filter true ⟨some s, some t⟩ = .ok c ↔ c = some ⟨some s, some t⟩ ∧ ¬ t < s := by
  by_cases h : t < s <;> simp [filter_both, h, eq_comm]

theorem exists_instant_before (now : Millis) (offset : Nat) (h : Word.least ≤ now.toInt - offset) :
    ∃ s : Millis, s.toInt = now.toInt - offset := by
  have held := Word.fits_toInt now
  refine ⟨_, Word.toInt_ofInt_of_fits ?_⟩
  simp only [Word.Fits] at held ⊢
  omega

theorem readBoth_of_goesBack (hs : GoesBack start a) (ht : GoesBack stop b)
    (first : s.toInt = clock.now.toInt - a) (last : t.toInt = clock.tick.now.toInt - b) :
    readBoth (some start) (some stop) clock = (.ok ⟨some s, some t⟩, clock.tick.tick) := by
  simp only [readBoth, readOne_some, hs.read_eq first, ht.read_eq last, Except.map]

theorem request_of_goesBack (hs : GoesBack start a) (ht : GoesBack stop b)
    (first : s.toInt = clock.now.toInt - a) (last : t.toInt = clock.tick.now.toInt - b) (strict : Bool) :
    request .custom (some start) (some stop) strict clock =
      ⟨filter strict ⟨some s, some t⟩, clock.tick.tick, []⟩ := by
  simp only [request, readBoth_of_goesBack hs ht first last]

theorem lt_iff_offsets_lt_drift (first : s.toInt = clock.now.toInt - a) (last : t.toInt = clock.tick.now.toInt - b) :
    t < s ↔ (a : Int) - b < clock.now.toInt - clock.tick.now.toInt := by
  rw [Int64.lt_iff_toInt_lt, first, last]
  omega

/-- Two offsets are taken back from two readings of the clock, the start from the first.  Strict reading refuses the
bounds just where the clock goes back between the readings by more than the offsets are apart, and so never where the
clock does not go back and the start is the longer ago. -/
theorem offsets_ordered_up_to_drift (clock : Clock) (hs : GoesBack start a) (ht : GoesBack stop b)
    (first : Word.least ≤ clock.now.toInt - a) (last : Word.least ≤ clock.tick.now.toInt - b) :
    ∃ (s t : Millis) (lenient strict : Report (Except Failure (Option Bounds))),
      request .custom (some start) (some stop) false clock = lenient ∧
      request .custom (some start) (some stop) true clock = strict ∧
      s.toInt = clock.now.toInt - a ∧ t.toInt = clock.tick.now.toInt - b ∧
      lenient.value = .ok (some ⟨some s, some t⟩) ∧
      lenient.clock = clock.tick.tick ∧ strict.clock = clock.tick.tick ∧
      (∀ f, strict.value = .error f ↔
        f = .bounds (.inverted s t) ∧ (a : Int) - b < clock.now.toInt - clock.tick.now.toInt) ∧
      (∀ bounds, strict.value = .ok bounds ↔
        bounds = some ⟨some s, some t⟩ ∧ ¬ (a : Int) - b < clock.now.toInt - clock.tick.now.toInt) ∧
      (clock.now ≤ clock.tick.now → b ≤ a →
        strict.value = .ok (some ⟨some s, some t⟩) ∧
        ∀ later, (Selector.custom.resolve (some ⟨some s, some t⟩) later).value.isInverted = false) := by
  obtain ⟨s, first⟩ := exists_instant_before clock.now a first
  obtain ⟨t, last⟩ := exists_instant_before clock.tick.now b last
  have read := request_of_goesBack hs ht first last
  have drift := lt_iff_offsets_lt_drift first last
  refine ⟨s, t, _, _, read false, read true, first, last, filter_both s t false, rfl, rfl, ?_, ?_, ?_⟩
  · intro f
    rw [← drift]
    exact filter_strict_eq_error_iff
  · intro bounds
    rw [← drift]
    exact filter_strict_eq_ok_iff
  · intro forwards longer
    have ordered : ¬ t < s := by
      rw [drift]
      rw [Int64.le_iff_toInt_le] at forwards
      omega
    exact ⟨filter_strict_eq_ok_iff.mpr ⟨rfl, ordered⟩, fun _ => Window.isInverted_ofMillis (Int64.not_lt.mp ordered)⟩

theorem second_apart_up_to_a_second :
    (request .custom (some "-2s") (some " -01s") true (.stepping 5000 (-1000))).value =
        .ok (some ⟨some 3000, some 3000⟩) ∧
      (request .custom (some "-2s") (some " -01s") true (.stepping 5000 (-1001))).value =
        .error (.bounds (.inverted 3000 2999)) ∧
      (request .custom (some "-2s") (some " -01s") true (.stepping 5000 7)).value =
        .ok (some ⟨some 3000, some 4007⟩) ∧
      (Selector.custom.resolve (some ⟨some 3000, some 4007⟩) (.fixed 0)).value.isInverted = false := by
  have start : GoesBack "-2s" 2000 :=
    ⟨⟨2, 1000, ⟨"2".toList, 's', rfl, by decide, List.all_eq_true.mp (by decide), rfl, by decide⟩, rfl⟩, by decide⟩
  have stop : GoesBack " -01s" 1000 :=
    ⟨⟨1, 1000, ⟨"01".toList, 's', rfl, by decide, List.all_eq_true.mp (by decide), rfl, by decide⟩, rfl⟩, by decide⟩
  have at_step (step : Millis) := offsets_ordered_up_to_drift (.stepping 5000 step) start stop
  refine ⟨?_, ?_, ?_⟩
  · obtain ⟨s, t, _, _, -, rfl, first, last, -, -, -, -, accepted, -⟩ := at_step (-1000) (by decide) (by decide)
    obtain rfl : s = 3000 := Int64.toInt_inj.mp first
    obtain rfl : t = 3000 := Int64.toInt_inj.mp last
    exact (accepted _).mpr ⟨rfl, by decide⟩
  · obtain ⟨s, t, _, _, -, rfl, first, last, -, -, -, refused, -⟩ := at_step (-1001) (by decide) (by decide)
    obtain rfl : s = 3000 := Int64.toInt_inj.mp first
    obtain rfl : t = 2999 := Int64.toInt_inj.mp last
    exact (refused _).mpr ⟨rfl, by decide⟩
  · obtain ⟨s, t, _, _, -, rfl, first, last, -, -, -, -, -, ordered⟩ := at_step 7 (by decide) (by decide)
    obtain rfl : s = 3000 := Int64.toInt_inj.mp first
    obtain rfl : t = 4007 := Int64.toInt_inj.mp last
    obtain ⟨accepted, resolved⟩ := ordered (by decide) (by decide)
    exact ⟨accepted, resolved _⟩

end Bounds

end TimeWindow
