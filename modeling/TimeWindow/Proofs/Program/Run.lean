import TimeWindow.Program

namespace TimeWindow.Program

variable {o : Options} {env : Environment} {clock : Clock} {f : Failure} {s : Selector} {told : List Event}
  {bounds : Option Bounds}

theorem run_of_not_chosen (hl : o.list = false)
    (hc : Selector.choose (o.selectorToken env) (o.fallbackToken env) = (.error f, told)) :
    run o env clock = ⟨told, .error f⟩ := by
  simp only [run, hl, hc]
  rfl

theorem run_of_refused (hl : o.list = false)
    (hc : Selector.choose (o.selectorToken env) (o.fallbackToken env) = (.ok s, told))
    (hr : (Bounds.request s o.start o.stop o.strict clock).value = .error f) :
    run o env clock = ⟨told ++ (Bounds.request s o.start o.stop o.strict clock).events, .error f⟩ := by
  simp only [run, hl, hc, hr]
  rfl

theorem run_of_resolved (hl : o.list = false)
    (hc : Selector.choose (o.selectorToken env) (o.fallbackToken env) = (.ok s, told))
    {request : Report (Except Failure (Option Bounds))} {resolved : Report Window}
    (request_eq : Bounds.request s o.start o.stop o.strict clock = request)
    (hr : request.value = .ok bounds) (resolved_eq : s.resolve bounds request.clock = resolved) :
    run o env clock =
      ⟨told ++ request.events ++ resolved.events ++ [.chosen s, .spanned resolved.value],
        .ok (print o.json resolved.value)⟩ := by
  subst request_eq resolved_eq
  simp only [run, hl, hc, hr]
  rfl

theorem run_ends (env : Environment) (clock : Clock) (hl : o.list = false) :
    (∃ f told, Selector.choose (o.selectorToken env) (o.fallbackToken env) = (.error f, told) ∧
      run o env clock = ⟨told, .error f⟩) ∨
    ∃ s told, Selector.choose (o.selectorToken env) (o.fallbackToken env) = (.ok s, told) ∧
      ((∃ f, (Bounds.request s o.start o.stop o.strict clock).value = .error f ∧
        run o env clock = ⟨told ++ (Bounds.request s o.start o.stop o.strict clock).events, .error f⟩) ∨
      ∃ bounds after w, (Bounds.request s o.start o.stop o.strict clock).value = .ok bounds ∧
        run o env clock =
          ⟨told ++ (Bounds.request s o.start o.stop o.strict clock).events ++ (s.resolve bounds after).events ++
            [.chosen s, .spanned w], .ok (print o.json w)⟩) := by
  rcases hc : Selector.choose (o.selectorToken env) (o.fallbackToken env) with ⟨f | s, told⟩
  · exact .inl ⟨f, told, rfl, run_of_not_chosen hl hc⟩
  · refine .inr ⟨s, told, rfl, ?_⟩
    cases hr : (Bounds.request s o.start o.stop o.strict clock).value with
    | error f => exact .inl ⟨f, rfl, run_of_refused hl hc hr⟩
    | ok bounds => exact .inr ⟨bounds, _, _, rfl, run_of_resolved hl hc rfl hr rfl⟩

theorem result_eq_error_iff (hl : o.list = false) :
    (run o env clock).result = .error f ↔
      (Selector.choose (o.selectorToken env) (o.fallbackToken env)).1 = .error f ∨
        ∃ s, (Selector.choose (o.selectorToken env) (o.fallbackToken env)).1 = .ok s ∧
          (Bounds.request s o.start o.stop o.strict clock).value = .error f := by
  obtain ⟨g, told, hc, ran⟩ | ⟨s, told, hc, ⟨g, hr, ran⟩ | ⟨bounds, after, w, hr, ran⟩⟩ :=
    run_ends env clock hl
  · simp [hc, ran]
  · simp [hc, hr, ran]
  · simp [hc, hr, ran]

theorem exists_result_eq_ok_iff (hl : o.list = false) :
    (∃ text, (run o env clock).result = .ok text) ↔
      ∃ s, (Selector.choose (o.selectorToken env) (o.fallbackToken env)).1 = .ok s ∧
        ∃ bounds, (Bounds.request s o.start o.stop o.strict clock).value = .ok bounds := by
  obtain ⟨g, told, hc, ran⟩ | ⟨s, told, hc, ⟨g, hr, ran⟩ | ⟨bounds, after, w, hr, ran⟩⟩ :=
    run_ends env clock hl
  · simp [hc, ran]
  · simp [hc, hr, ran]
  · simp [hc, hr, ran]

theorem exit_eq_zero_iff : (run o env clock).exit = 0 ↔ ∃ text, (run o env clock).result = .ok text := by
  cases h : (run o env clock).result <;> simp [Run.exit, h]

theorem exists_resolved_of_ok {text : String} (hl : o.list = false) (h : (run o env clock).result = .ok text) :
    ∃ s told bounds after w, Selector.choose (o.selectorToken env) (o.fallbackToken env) = (.ok s, told) ∧
      run o env clock =
        ⟨told ++ (Bounds.request s o.start o.stop o.strict clock).events ++ (s.resolve bounds after).events ++
          [.chosen s, .spanned w], .ok (print o.json w)⟩ := by
  obtain ⟨g, told, hc, ran⟩ | ⟨s, told, hc, ⟨g, hr, ran⟩ | ⟨bounds, after, w, hr, ran⟩⟩ :=
    run_ends env clock hl
  · rw [ran] at h
    cases h
  · rw [ran] at h
    cases h
  · exact ⟨s, told, bounds, after, w, hc, ran⟩

theorem execute_of_read {args : List String} (hr : CommandLine.read args = .ok o) :
    execute args env clock = .ofRun (Level.shown o.quiet o.verbose) (run o env clock) := by
  simp only [execute, hr]

end TimeWindow.Program
