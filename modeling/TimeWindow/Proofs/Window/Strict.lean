import TimeWindow.Proofs.Window.Request

namespace TimeWindow.Bounds

variable {b : Bounds} {bounds : Option Bounds} {start stop input : Option String} {strict : Bool} {clock : Clock}
  {bound : Option Millis} {text : String} {e : Endpoint.Error}

def Names (input : Option String) (clock : Clock) (bound : Option Millis) : Prop :=
  bound.map .ok = input.map fun text => (Endpoint.read text clock).1

instance : Decidable (Names input clock bound) := inferInstanceAs (Decidable (_ = _))

def clockAfter (input : Option String) (clock : Clock) : Clock :=
  input.elim clock fun text => (Endpoint.read text clock).2

theorem readOne_fst_eq_ok_iff : (readOne input clock).1 = .ok bound ↔ Names input clock bound := by
  cases input with
  | none => cases bound <;> simp [readOne, Names]
  | some text =>
    rw [readOne_some]
    cases h : (Endpoint.read text clock).1 <;> cases bound <;> simp [Names, Except.map, h, eq_comm]

theorem readOne_snd (input : Option String) (clock : Clock) : (readOne input clock).2 = clockAfter input clock := by
  cases input with
  | none => rfl
  | some text => rw [readOne_some]; rfl

theorem Names.eq_none_iff (h : Names input clock bound) : bound = none ↔ input = none := by
  rw [← Option.map_eq_none_iff, h, Option.map_eq_none_iff]

theorem readBoth_of_start_error (h : (Endpoint.read text clock).1 = .error e) (stop : Option String) :
    readBoth (some text) stop clock = (.error e, (Endpoint.read text clock).2) := by
  simp only [readBoth, readOne_some, h, Except.map]

theorem readBoth_fst_eq_ok_iff :
    (readBoth start stop clock).1 = .ok b ↔
      Names start clock b.start ∧ Names stop (clockAfter start clock) b.stop := by
  rw [readBoth_eq_ok_iff, readOne_fst_eq_ok_iff, readOne_fst_eq_ok_iff, readOne_snd]

def screen (bounds : Option Bounds) : Except Failure (Option Bounds) :=
  match (bounds.getD absent).check with
  | .ok _ => .ok bounds
  | .error fault => .error (.bounds fault)

theorem screen_of_ok {p : Millis × Millis} (h : (bounds.getD absent).check = .ok p) : screen bounds = .ok bounds := by
  simp only [screen, h]

theorem screen_of_error {fault : Fault} (h : (bounds.getD absent).check = .error fault) :
    screen bounds = .error (.bounds fault) := by
  simp only [screen, h]

theorem eq_of_screen {c : Option Bounds} (h : screen bounds = .ok c) : c = bounds := by
  unfold screen at h
  split at h <;> cases h
  rfl

theorem filter_strict (b : Bounds) : b.filter true = screen b.given? := by
  cases h : b.check <;> simp [filter, screen, h]

theorem request_custom_strict (start stop : Option String) (clock : Clock) :
    request .custom start stop true clock =
      { request .custom start stop false clock with
        value := (request .custom start stop false clock).value.bind screen } := by
  simp only [request]
  split
  · rfl
  · rw [filter_strict]
    rfl

theorem request_custom_lenient_iff :
    (request .custom start stop false clock).value = .ok bounds ↔
      (bounds = none ↔ start = none ∧ stop = none) ∧ Names start clock (bounds.getD absent).start ∧
        Names stop (clockAfter start clock) (bounds.getD absent).stop := by
  have given : ∀ {b : Bounds}, Names start clock b.start → Names stop (clockAfter start clock) b.stop →
      (b = absent ↔ start = none ∧ stop = none) := by
    intro b first last
    rw [← first.eq_none_iff, ← last.eq_none_iff]
    exact Iff.of_eq (Bounds.mk.injEq ..)
  rw [request_custom_eq_ok_iff]
  simp only [readBoth_fst_eq_ok_iff, filter_eq_ok_iff]
  constructor
  · rintro ⟨b, ⟨first, last⟩, rfl, -⟩
    rw [getD_given?]
    exact ⟨by simp [given?, given first last], first, last⟩
  · rintro ⟨missing, first, last⟩
    refine ⟨bounds.getD absent, ⟨first, last⟩, ?_, nofun⟩
    cases bounds with
    | none => rfl
    | some b =>
      refine (if_neg ?_).symm
      intro h
      exact nomatch missing.mpr ((given first last).mp h)

theorem request_custom_of_start_error (h : (Endpoint.read text clock).1 = .error e) (stop : Option String)
    (strict : Bool) :
    request .custom (some text) stop strict clock = ⟨.error (.endpoint e), (Endpoint.read text clock).2, []⟩ := by
  simp only [request, readBoth_of_start_error h]

/-- Strict reading is a filter behind lenient reading: the clock, what is told and the failures are the same, and so are
the bounds unless a custom window does not pass the check.  A start that cannot be read is the failure whatever the end
is.  Without a custom window nothing is read, and with one each text is read once, at the clock that is left for it. -/
theorem strict_reading_filters_lenient (s : Selector) (start stop : Option String) (clock : Clock) :
    ∃ lenient strict, request s start stop false clock = lenient ∧ request s start stop true clock = strict ∧
      strict.clock = lenient.clock ∧ strict.events = lenient.events ∧
      (∀ f, lenient.value = .error f → strict.value = .error f) ∧
      (∀ bounds, lenient.value = .ok bounds →
        (s.isCustom = false ∨ (∃ p, (bounds.getD absent).check = .ok p) → strict.value = .ok bounds) ∧
        ∀ fault, s.isCustom = true → (bounds.getD absent).check = .error fault →
          strict.value = .error (.bounds fault)) ∧
      (s.isCustom = false → ∀ r ∈ [lenient, strict], r.value = .ok none ∧ r.clock = clock) ∧
      (s.isCustom = true →
        (∀ text e, start = some text → (Endpoint.read text clock).1 = .error e →
          ∀ r ∈ [lenient, strict], r = ⟨.error (.endpoint e), (Endpoint.read text clock).2, []⟩) ∧
        (lenient.value = .ok none ↔ start = none ∧ stop = none) ∧
        (∀ bounds, lenient.value = .ok bounds ↔
          (bounds = none ↔ start = none ∧ stop = none) ∧ Names start clock (bounds.getD absent).start ∧
            Names stop (clockAfter start clock) (bounds.getD absent).stop) ∧
        ∀ bounds, strict.value = .ok bounds → lenient.value = .ok bounds) ∧
      (∀ e, (Failure.endpoint e).message = e.message) ∧
      ∀ fault, (Failure.bounds fault).message = fault.message := by
  cases s with
  | last span =>
    refine ⟨_, _, rfl, rfl, rfl, rfl, fun _ h => h, fun _ h => ⟨fun _ => h, nofun⟩, ?_, nofun, fun _ => rfl,
      fun _ => rfl⟩
    exact fun _ => List.forall_mem_cons.mpr ⟨⟨rfl, rfl⟩, List.forall_mem_singleton.mpr ⟨rfl, rfl⟩⟩
  | custom =>
    refine ⟨_, _, rfl, rfl, ?_, ?_, ?_, ?_, nofun, fun _ => ⟨?_, ?_, fun _ => request_custom_lenient_iff, ?_⟩,
      fun _ => rfl, fun _ => rfl⟩
    · rw [request_custom_strict]
    · rw [request_custom_strict]
    · intro f h
      rw [request_custom_strict, h]
      rfl
    · intro bounds h
      rw [request_custom_strict, h]
      constructor
      · rintro (hs | ⟨p, hp⟩)
        · cases hs
        · exact screen_of_ok hp
      · intro fault _ hf
        exact screen_of_error hf
    · rintro text e rfl he
      exact List.forall_mem_cons.mpr ⟨request_custom_of_start_error he stop false,
        List.forall_mem_singleton.mpr (request_custom_of_start_error he stop true)⟩
    · constructor
      · intro h
        exact (request_custom_lenient_iff.mp h).1.mp rfl
      · rintro ⟨rfl, rfl⟩
        rfl
    · intro bounds h
      rw [request_custom_strict] at h
      cases hl : (request .custom start stop false clock).value with
      | error f =>
        rw [hl] at h
        cases h
      | ok read =>
        rw [hl] at h
        rw [eq_of_screen h]

theorem no_time_ago_twice_is_inverted :
    (request .custom (some "-0s") (some "-0s") false (.stepping 10 (-3))).value = .ok (some ⟨some 10, some 7⟩) ∧
      (request .custom (some "-0s") (some "-0s") true (.stepping 10 (-3))).value =
        .error (.bounds (.inverted 10 7)) ∧
      (request .custom (some "-1s") (some "-0s") true (.fixed Int64.minValue)).value =
        .error (.endpoint ⟨"-1s", .overflow⟩) ∧
      (request .custom none none true (.fixed 0)).value = .error (.bounds .missingStart) ∧
      (request (.last .hr1) (some "noon") none true (.fixed 0)).value = .ok none := by
  refine ⟨?_, ?_, ?_, ?_, ?_⟩
  · obtain ⟨_, _, rfl, -, -, -, -, -, -, custom, -⟩ :=
      strict_reading_filters_lenient .custom (some "-0s") (some "-0s") (.stepping 10 (-3))
    exact ((custom rfl).2.2.1 _).mpr ⟨by decide, by decide, by decide⟩
  · obtain ⟨_, _, rfl, rfl, -, -, -, read, -, custom, -⟩ :=
      strict_reading_filters_lenient .custom (some "-0s") (some "-0s") (.stepping 10 (-3))
    have lenient := ((custom rfl).2.2.1 (some ⟨some 10, some 7⟩)).mpr ⟨by decide, by decide, by decide⟩
    exact (read _ lenient).2 _ rfl rfl
  · obtain ⟨_, _, rfl, rfl, -, -, -, -, -, custom, -⟩ :=
      strict_reading_filters_lenient .custom (some "-1s") (some "-0s") (.fixed Int64.minValue)
    have failed := (custom rfl).1 "-1s" ⟨"-1s", .overflow⟩ rfl (by decide)
    rw [failed _ (List.mem_cons_of_mem _ List.mem_cons_self)]
  · obtain ⟨_, _, rfl, rfl, -, -, -, read, -, custom, -⟩ := strict_reading_filters_lenient .custom none none (.fixed 0)
    exact (read none ((custom rfl).2.1.mpr ⟨rfl, rfl⟩)).2 _ rfl rfl
  · obtain ⟨_, _, rfl, rfl, -, -, -, -, span, -⟩ :=
      strict_reading_filters_lenient (.last .hr1) (some "noon") none (.fixed 0)
    exact (span rfl _ (List.mem_cons_of_mem _ List.mem_cons_self)).1

end TimeWindow.Bounds
