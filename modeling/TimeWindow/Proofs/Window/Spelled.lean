import TimeWindow.Proofs.Text.Blank
import TimeWindow.Proofs.Window.Saturation

namespace TimeWindow

namespace Endpoint

open Text

variable {text : String} {offset : Nat} {clock : Clock}

theorem isBlank_of_mem_writtenAgo {s : List Char} {n unit : Nat} (h : WrittenAgo s n unit) :
    ∀ c ∈ s, isBlank c = false := by
  obtain ⟨digits, u, rfl, -, hd, -, hu⟩ := h
  have units_not_blank : ∀ p ∈ units, isBlank p.1 = false := by decide
  intro c hc
  simp only [List.mem_cons, List.mem_append, List.not_mem_nil, or_false] at hc
  obtain rfl | hc | rfl := hc
  · decide
  · exact isBlank_of_isDigit (hd c hc)
  · exact units_not_blank _ hu

/-- The text says so many milliseconds ago, in some unit, whatever blanks stand around it. -/
def SpellsAgo (text : String) (offset : Nat) : Prop :=
  ∃ n unit, WrittenAgo (trim text.toList) n unit ∧ n * unit = offset

theorem spellsAgo_ofList {digits : List Char} {u : Char} {unit : Nat} (hn : digits ≠ [])
    (hd : ∀ c ∈ digits, c.isDigit) (hu : (u, unit) ∈ units) :
    SpellsAgo (String.ofList ('-' :: (digits ++ [u]))) (value digits * unit) := by
  have written : WrittenAgo ('-' :: (digits ++ [u])) (value digits) unit := ⟨digits, u, rfl, hn, hd, rfl, hu⟩
  refine ⟨_, _, ?_, rfl⟩
  rwa [String.toList_ofList, trim_eq_self (isBlank_of_mem_writtenAgo written)]

theorem ofText?_of_spellsAgo (h : SpellsAgo text offset) (hf : Word.Fits offset) :
    ofText? (trim text.toList) = some (ago (Int64.ofInt offset)) := by
  obtain ⟨n, unit, written, rfl⟩ := h
  exact ofText?_of_writtenAgo written hf

theorem read_of_spellsAgo (h : SpellsAgo text offset) (hf : Word.Fits offset)
    (hr : Word.Fits (clock.now.toInt - offset)) :
    read text clock = (.ok (Word.clamp (clock.now.toInt - offset)), clock.tick) := by
  apply read_of_ago (ofText?_of_spellsAgo h hf)
  rw [Word.toInt_clamp_of_fits hr, Word.toInt_ofInt_of_fits hf]

theorem read_of_spellsAgo_of_not_fits (h : SpellsAgo text offset) (hf : Word.Fits offset)
    (hr : ¬ Word.Fits (clock.now.toInt - offset)) :
    read text clock = (.error ⟨String.ofList (trim text.toList), .overflow⟩, clock.tick) := by
  apply read_of_ago_of_not_fits (ofText?_of_spellsAgo h hf)
  rwa [Word.toInt_ofInt_of_fits hf]

theorem read_of_spellsAgo_zero (h : SpellsAgo text 0) : read text clock = (.ok clock.now, clock.tick) := by
  have present := Word.fits_toInt clock.now
  rw [read_of_spellsAgo h (by decide) (by simpa using present)]
  simp

theorem read_minutes_ago {digits : List Char} (hn : digits ≠ []) (hd : ∀ c ∈ digits, c.isDigit)
    (hf : Word.Fits (60000 * value digits)) (hr : Word.Fits (clock.now.toInt - 60000 * value digits)) :
    (read (String.ofList ('-' :: (digits ++ ['m']))) clock).1 =
      .ok (minutesBefore clock.now (Int64.ofNat (value digits))) := by
  have spells : SpellsAgo (String.ofList ('-' :: (digits ++ ['m']))) (value digits * 60000) :=
    spellsAgo_ofList hn hd (by decide)
  have offset : ((value digits * 60000 : Nat) : Int) = 60000 * value digits := by omega
  have minutes : (Int64.ofNat (value digits)).toInt = value digits := by
    apply Int64.toInt_ofNat_of_lt
    simp only [Word.Fits, Word.greatest] at hf
    omega
  rw [read_of_spellsAgo spells (by rwa [offset]) (by rwa [offset]), minutesBefore_eq_clamp, minutes, offset,
    Int.mul_comm]
  · rfl
  · rwa [minutes, Int.mul_comm]

end Endpoint

namespace Span

variable {start stop : String} {now : Millis}

def bounds (s : Span) (now : Millis) : Bounds := ⟨some (minutesBefore now (Int64.ofNat s.minutes)), some now⟩

theorem window_bounds (s : Span) (now : Millis) : (s.bounds now).window = s.window now := rfl

theorem check_bounds (s : Span) (now : Millis) :
    (s.bounds now).check = .ok (minutesBefore now (Int64.ofNat s.minutes), now) :=
  Bounds.check_eq_ok_iff.mpr ⟨rfl, minutesBefore_le now s.minutes_nonneg⟩

theorem events_resolve_bounds (s : Span) (now : Millis) (clock : Clock) :
    (Selector.custom.resolve (some (s.bounds now)) clock).events = [.resolved .custom (s.window now)] :=
  if_neg (Bool.not_eq_true _ ▸ s.isInverted_window now)

theorem fits_minutes (s : Span) : Word.Fits (60000 * s.minutes : Nat) := by
  have := s.one_le_minutes_and_le
  simp only [Word.Fits, Word.least, Word.greatest]
  omega

theorem fits_sub_minutes_iff (s : Span) (now : Millis) :
    Word.Fits (now.toInt - (60000 * s.minutes : Nat)) ↔ Word.least ≤ now.toInt - 60000 * s.minutes := by
  have present := Word.fits_toInt now
  simp only [Word.Fits, Int.natCast_mul] at *
  omega

theorem request_of_spelled (s : Span) (hs : Endpoint.SpellsAgo start (60000 * s.minutes))
    (ht : Endpoint.SpellsAgo stop 0) (fits : Word.least ≤ now.toInt - 60000 * s.minutes) (strict : Bool) :
    (Bounds.request .custom (some start) (some stop) strict (.fixed now)).value = .ok (some (s.bounds now)) := by
  have first : (Endpoint.read start (.fixed now)).1 = .ok (minutesBefore now (Int64.ofNat s.minutes)) := by
    have fits' := (s.fits_sub_minutes_iff (Clock.fixed now).now).mpr fits
    rw [Endpoint.read_of_spellsAgo hs s.fits_minutes fits', minutesBefore_minutes]
    rfl
  have last : (Endpoint.read stop (.fixed now)).1 = .ok now := by
    rw [Endpoint.read_of_spellsAgo_zero ht]
    rfl
  refine Bounds.request_custom_eq_ok_iff.mpr ⟨s.bounds now, Bounds.readBoth_fixed_eq_ok_iff.mpr ⟨?_, ?_⟩, ?_⟩
  · rw [Bounds.readOne_some, first]
    rfl
  · rw [Bounds.readOne_some, last]
    rfl
  · rw [Bounds.filter_eq_ok_iff, Bounds.given?_of_start rfl]
    exact ⟨rfl, fun _ => ⟨_, s.check_bounds now⟩⟩

theorem request_of_spelled_of_overflow (s : Span) (hs : Endpoint.SpellsAgo start (60000 * s.minutes))
    (stop : Option String) (overflow : now.toInt - 60000 * s.minutes < Word.least) (strict : Bool) :
    (Bounds.request .custom (some start) stop strict (.fixed now)).value =
      .error (.endpoint ⟨String.ofList (Text.trim start.toList), .overflow⟩) := by
  have passed := (s.fits_sub_minutes_iff (Clock.fixed now).now).not.mpr (Int.not_le.mpr overflow)
  refine Bounds.request_custom_eq_error_iff.mpr (.inl ⟨_, Bounds.readBoth_eq_error_iff.mpr (.inl ?_), rfl⟩)
  rw [Bounds.readOne_some, Endpoint.read_of_spellsAgo_of_not_fits hs s.fits_minutes passed]
  rfl

theorem window_of_overflow (s : Span) (overflow : now.toInt - 60000 * s.minutes < Word.least) :
    s.window now = ⟨Int64.minValue, Int64.minValue⟩ := by
  have minutes := s.one_le_minutes_and_le
  have least : Int64.minValue.toInt = Word.least := rfl
  apply Window.ext_toInt
  · rw [first_window, Word.toInt_clamp, least]
    simp only [nanosPerMilli, Word.least, Word.greatest] at *
    omega
  · rw [last_window, Word.toInt_clamp, least]
    simp only [nanosPerMilli, Word.least, Word.greatest] at *
    omega

/-- A span and its spelling in bounds resolve to one window, without a warning, as long as the first bound is an
instant at all.  Where it is none the spelling is refused, and the span stops at the first instant.  A text of minutes
goes back as a span would wherever words hold its length and the instant. -/
theorem span_resolves_as_spelled (s : Span) (now : Millis)
    (hs : Endpoint.SpellsAgo start (60000 * s.minutes)) (ht : Endpoint.SpellsAgo stop 0) :
    (Word.least ≤ now.toInt - 60000 * s.minutes → ∀ strict, ∃ b,
      (Bounds.request .custom (some start) (some stop) strict (.fixed now)).value = .ok (some b) ∧
      (Selector.custom.resolve (some b) (.fixed now)).value =
        ((Selector.last s).resolve none (.fixed now)).value ∧
      ∀ e ∈ (Bounds.request .custom (some start) (some stop) strict (.fixed now)).events ++
        (Selector.custom.resolve (some b) (.fixed now)).events, e.level ≠ .warn) ∧
    (now.toInt - 60000 * s.minutes < Word.least → ∀ strict,
      (Bounds.request .custom (some start) (some stop) strict (.fixed now)).value =
        .error (.endpoint ⟨String.ofList (Text.trim start.toList), .overflow⟩) ∧
      ((Selector.last s).resolve none (.fixed now)).value = ⟨Int64.minValue, Int64.minValue⟩) ∧
    (∀ (digits : List Char) (clock : Clock), digits ≠ [] → (∀ c ∈ digits, c.isDigit) →
      Word.Fits (60000 * Text.value digits) → Word.Fits (clock.now.toInt - 60000 * Text.value digits) →
        (Endpoint.read (String.ofList ('-' :: (digits ++ ['m']))) clock).1 =
          .ok (minutesBefore clock.now (Int64.ofNat (Text.value digits)))) ∧
    Endpoint.Fault.overflow.reason = "Relative time overflow" := by
  refine ⟨?_, ?_, fun digits clock => Endpoint.read_minutes_ago, rfl⟩
  · intro fits strict
    refine ⟨s.bounds now, s.request_of_spelled hs ht fits strict, s.window_bounds now, ?_⟩
    rw [Bounds.events_request_custom, events_resolve_bounds]
    simp [Event.level]
  · intro overflow strict
    exact ⟨s.request_of_spelled_of_overflow hs (some stop) overflow strict, s.window_of_overflow overflow⟩

theorem hour_resolves_as_sixty_minutes :
    (∀ strict, ∃ b,
      (Bounds.request .custom (some "-060m") (some "-00w") strict (.fixed 3155760000000)).value = .ok (some b) ∧
      (Selector.custom.resolve (some b) (.fixed 3155760000000)).value =
        ((Selector.last .hr1).resolve none (.fixed 3155760000000)).value) ∧
    (Bounds.request .custom (some "-060m") (some "-00w") true (.fixed Int64.minValue)).value =
      .error (.endpoint ⟨"-060m", .overflow⟩) ∧
    ((Selector.last .hr1).resolve none (.fixed Int64.minValue)).value = ⟨Int64.minValue, Int64.minValue⟩ ∧
    (Endpoint.read "-060m" (.fixed 3155760000000)).1 = .ok (minutesBefore 3155760000000 60) := by
  have start : Endpoint.SpellsAgo "-060m" (60000 * hr1.minutes) :=
    ⟨60, 60000, ⟨"060".toList, 'm', rfl, by decide, List.all_eq_true.mp (by decide), rfl, by decide⟩, rfl⟩
  have stop : Endpoint.SpellsAgo "-00w" 0 :=
    ⟨0, 604800000, ⟨"00".toList, 'w', rfl, by decide, List.all_eq_true.mp (by decide), rfl, by decide⟩, rfl⟩
  have late := span_resolves_as_spelled hr1 3155760000000 start stop
  have early := span_resolves_as_spelled hr1 Int64.minValue start stop
  refine ⟨?_, (early.2.1 (by decide) true).1, (early.2.1 (by decide) true).2, ?_⟩
  · intro strict
    obtain ⟨b, requested, resolved, -⟩ := late.1 (by decide) strict
    exact ⟨b, requested, resolved⟩
  · exact late.2.2.1 "060".toList (.fixed 3155760000000) (by decide) (List.all_eq_true.mp (by decide)) (by decide)
      (by decide)

end Span

end TimeWindow
