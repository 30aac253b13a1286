import TimeWindow.Proofs.Endpoint.Forms

namespace TimeWindow.Endpoint

open Text

variable {input : String} {clock : Clock} {s : List Char} {t u : Millis}

theorem read_of_fixed (h : ofText? (trim input.toList) = some (fixed t)) :
    read input clock = (.ok t, clock) := by
  simp only [read, readBy, h]

theorem read_of_none (h : ofText? (trim input.toList) = none) :
    read input clock = (.error ⟨String.ofList (trim input.toList), .unrecognized⟩, clock) := by
  simp only [read, readBy, h]

theorem read_of_ago (h : ofText? (trim input.toList) = some (ago t))
    (hu : u.toInt = clock.now.toInt - t.toInt) : read input clock = (.ok u, clock.tick) := by
  simp only [read, readBy, h, Word.ofInt?_eq_some_iff.mpr hu]

theorem read_of_ago_of_not_fits (h : ofText? (trim input.toList) = some (ago t))
    (hu : ¬ Word.Fits (clock.now.toInt - t.toInt)) :
    read input clock = (.error ⟨String.ofList (trim input.toList), .overflow⟩, clock.tick) := by
  simp only [read, readBy, h, Word.ofInt?_eq_none_iff.mpr hu]

theorem read_snd_of_ago (h : ofText? (trim input.toList) = some (ago t)) :
    (read input clock).2 = clock.tick := by
  by_cases hf : Word.Fits (clock.now.toInt - t.toInt)
  · rw [read_of_ago h (Word.toInt_ofInt_of_fits hf)]
  · rw [read_of_ago_of_not_fits h hf]

theorem read_fst_congr (input : String) {c d : Clock} (h : c.now = d.now) :
    (read input c).1 = (read input d).1 := by
  simp only [read, readBy, h]
  split
  · rfl
  · rfl
  · split <;> rfl

theorem ofText?_eq_ago_iff : ofText? s = some (ago t) ↔ offset? s = some t := by
  simp [ofText?_eq_some_iff, ofMoment]

theorem one_le_of_mem_units {c : Char} {unit : Nat} (h : (c, unit) ∈ units) : 1 ≤ unit := by
  have all : ∀ p ∈ units, 1 ≤ p.2 := by decide
  exact all _ h

/-- An offset that words can hold, its number and its length. -/
def HeldAgo (s : List Char) : Prop :=
  ∃ n unit : Nat, WrittenAgo s n unit ∧ Word.Fits n ∧ Word.Fits (n * unit : Nat)

theorem ofText?_of_writtenAgo {n unit : Nat} (h : WrittenAgo s n unit) (hf : Word.Fits (n * unit : Nat)) :
    ofText? s = some (ago (Int64.ofInt (n * unit : Nat))) := by
  rw [ofText?_eq_ago_iff, offset?_of_writtenAgo h, Word.ofInt?_eq_some_iff]
  exact Word.toInt_ofInt_of_fits hf

theorem fits_of_fits_mul {n unit : Nat} (h : WrittenAgo s n unit) (hf : Word.Fits (n * unit : Nat)) :
    Word.Fits n := by
  obtain ⟨_, _, -, -, -, -, hu⟩ := h
  have := Nat.le_mul_of_pos_right n (one_le_of_mem_units hu)
  simp only [Word.Fits, Word.least] at *
  omega

theorem heldAgo_iff : HeldAgo s ↔ ∃ t, ofText? s = some (ago t) := by
  constructor
  · rintro ⟨n, unit, h, -, hf⟩
    exact ⟨_, ofText?_of_writtenAgo h hf⟩
  · rintro ⟨t, ht⟩
    rw [ofText?_eq_ago_iff] at ht
    obtain ⟨n, unit, h⟩ := exists_writtenAgo_of_offset? ht
    rw [offset?_of_writtenAgo h, Word.ofInt?_eq_some_iff] at ht
    have hf := Word.fits_toInt t
    rw [ht] at hf
    exact ⟨n, unit, h, fits_of_fits_mul h hf, hf⟩

theorem ofText?_eq_none_of_writtenAgo {n unit : Nat} (h : WrittenAgo s n unit)
    (hf : ¬ Word.Fits (n * unit : Nat)) : ofText? s = none := by
  have epoch : epoch? s = none := by
    rw [Option.eq_none_iff_forall_ne_some]
    intro t ht
    obtain ⟨-, hd, -⟩ := epoch?_eq_some_iff.mp ht
    obtain ⟨digits, u, rfl, -⟩ := h
    exact absurd (hd '-' List.mem_cons_self) (by decide)
  have offset : offset? s = none := by rw [offset?_of_writtenAgo h, Word.ofInt?_eq_none_iff.mpr hf]
  exact ofText?_eq_none epoch offset (not_mem_of_writtenAgo h (.inr rfl)) (not_mem_of_writtenAgo h (.inl rfl))

theorem read_snd_of_heldAgo (h : HeldAgo (trim input.toList)) : (read input clock).2 = clock.tick := by
  obtain ⟨t, ht⟩ := heldAgo_iff.mp h
  exact read_snd_of_ago ht

theorem exists_answer_of_not_heldAgo (h : ¬ HeldAgo (trim input.toList)) :
    ∃ answer, ∀ clock, read input clock = (answer, clock) := by
  cases he : ofText? (trim input.toList) with
  | none => exact ⟨_, fun _ => read_of_none he⟩
  | some e =>
    cases e with
    | fixed t => exact ⟨_, fun _ => read_of_fixed he⟩
    | ago t => exact absurd (heldAgo_iff.mpr ⟨t, he⟩) h

theorem tick_ne (clock : Clock) : clock.tick ≠ clock := by
  intro h
  have := congrArg Clock.reads h
  simp at this

/-- The clock is read for an offset that words can hold, once, and the instant is exact; no other text reads
differently by another clock. -/
theorem read_uses_clock_iff_heldAgo (input : String) (clock : Clock) :
    ((read input clock).2 = clock.tick ↔ HeldAgo (trim input.toList)) ∧
    ((read input clock).2 = clock ↔ ¬ HeldAgo (trim input.toList)) ∧
    (∀ n unit : Nat, WrittenAgo (trim input.toList) n unit → Word.Fits n → Word.Fits (n * unit : Nat) →
      (Word.least ≤ clock.now.toInt - (n * unit : Nat) →
        ∃ t, (read input clock).1 = .ok t ∧ t.toInt = clock.now.toInt - (n * unit : Nat)) ∧
      (clock.now.toInt - (n * unit : Nat) < Word.least →
        (read input clock).1 = .error ⟨String.ofList (trim input.toList), .overflow⟩)) ∧
    (¬ HeldAgo (trim input.toList) → ∀ other, (read input other).1 = (read input clock).1) ∧
    (∀ n unit : Nat, WrittenAgo (trim input.toList) n unit →
      ¬ (Word.Fits n ∧ Word.Fits (n * unit : Nat)) →
        (read input clock).1 = .error ⟨String.ofList (trim input.toList), .unrecognized⟩) ∧
    Fault.overflow.reason = "Relative time overflow" := by
  refine ⟨⟨?_, read_snd_of_heldAgo⟩, ⟨?_, ?_⟩, ?_, ?_, ?_, rfl⟩
  · intro h
    by_contra hn
    obtain ⟨answer, ha⟩ := exists_answer_of_not_heldAgo hn
    rw [ha] at h
    exact tick_ne clock h.symm
  · intro h hh
    exact tick_ne clock ((read_snd_of_heldAgo hh).symm.trans h)
  · intro h
    obtain ⟨answer, ha⟩ := exists_answer_of_not_heldAgo h
    rw [ha]
  · intro n unit h _ hf
    have ht := ofText?_of_writtenAgo h hf
    have value := Word.toInt_ofInt_of_fits hf
    have now := Word.fits_toInt clock.now
    constructor
    · intro hl
      have fits : Word.Fits (clock.now.toInt - (n * unit : Nat)) := by
        simp only [Word.Fits] at now ⊢
        omega
      have hu := Word.toInt_ofInt_of_fits fits
      exact ⟨_, by rw [read_of_ago ht (hu.trans (by rw [value]))], hu⟩
    · intro hl
      have overflow : ¬ Word.Fits (clock.now.toInt - (n * unit : Nat)) := fun fits => absurd fits.1 (by omega)
      rw [read_of_ago_of_not_fits ht (by rwa [value])]
  · intro h other
    obtain ⟨answer, ha⟩ := exists_answer_of_not_heldAgo h
    rw [ha, ha]
  · intro n unit h hn
    rw [read_of_none (ofText?_eq_none_of_writtenAgo h ?_)]
    intro hf
    exact hn ⟨fits_of_fits_mul h hf, hf⟩

theorem read_quarter_hour_ago :
    WrittenAgo (trim " -015m\n".toList) 15 60000 ∧
      (∃ t, (read " -015m\n" (.fixed 0)).1 = .ok t ∧ t.toInt = -900000) ∧
      (read " -015m\n" (.fixed Int64.minValue)).1 = .error ⟨"-015m", .overflow⟩ ∧
      WrittenAgo "-99999999999999999w".toList 99999999999999999 604800000 ∧
      (read "-99999999999999999w" (.fixed 0)).1 = .error ⟨"-99999999999999999w", .unrecognized⟩ := by
  have short : WrittenAgo (trim " -015m\n".toList) 15 60000 :=
    ⟨"015".toList, 'm', by decide, by decide, List.all_eq_true.mp (by decide), by decide, by decide⟩
  have long : WrittenAgo "-99999999999999999w".toList 99999999999999999 604800000 :=
    ⟨"99999999999999999".toList, 'w', by decide, by decide, List.all_eq_true.mp (by decide), by decide,
      by decide⟩
  refine ⟨short, ?_, ?_, long, ?_⟩
  · exact ((read_uses_clock_iff_heldAgo " -015m\n" (.fixed 0)).2.2.1 15 60000 short (by decide)
      (by decide)).1 (by decide)
  · exact ((read_uses_clock_iff_heldAgo " -015m\n" (.fixed Int64.minValue)).2.2.1 15 60000 short (by decide)
      (by decide)).2 (by decide)
  · exact (read_uses_clock_iff_heldAgo "-99999999999999999w" (.fixed 0)).2.2.2.2.1 _ _ long (by decide)

end TimeWindow.Endpoint
