import TimeWindow.Proofs.Program.Print
import TimeWindow.Proofs.Program.Run
import TimeWindow.Proofs.Program.Shown
import TimeWindow.Proofs.Window.Request

namespace TimeWindow

variable {start stop : Millis}

theorem Selector.inverted_notMem_choose {token : String} {fallback : Option String} :
    .inverted start stop ∉ (choose token fallback).2 := by
  unfold choose
  split
  · simp
  · simp
  · split <;> simp

namespace Program

variable {args : List String} {o : Options} {env : Environment} {clock : Clock} {now : Millis} {s : Selector}
  {w : Window}

structure Prints (o : Options) (env : Environment) (clock : Clock) (s : Selector) (w : Window) : Prop where
  chosen : (Selector.choose (o.selectorToken env) (o.fallbackToken env)).1 = .ok s
  printed : (run o env clock).result = .ok (print o.json w)
  resolved : ∃ bounds after, (Bounds.request s o.start o.stop o.strict clock).value = .ok bounds ∧
    (s.resolve bounds after).value = w ∧
    ∀ start stop, .inverted start stop ∈ (run o env clock).events ↔
      .inverted start stop ∈ (s.resolve bounds after).events

theorem run_cases (hl : o.list = false) (env : Environment) (clock : Clock) :
    (∃ f, (run o env clock).result = .error f ∧
      ∀ start stop, .inverted start stop ∉ (run o env clock).events) ∨
    ∃ s w, Prints o env clock s w := by
  cases hc : Selector.choose (o.selectorToken env) (o.fallbackToken env) with
  | mk choice told =>
    have chosen (start stop : Millis) : .inverted start stop ∉ told := by
      have h : .inverted start stop ∉ (Selector.choose (o.selectorToken env) (o.fallbackToken env)).2 :=
        Selector.inverted_notMem_choose
      rwa [hc] at h
    cases choice with
    | error f =>
      left
      rw [run_of_not_chosen hl hc]
      exact ⟨f, rfl, chosen⟩
    | ok s =>
      cases hr : (Bounds.request s o.start o.stop o.strict clock).value with
      | error f =>
        left
        rw [run_of_refused hl hc hr]
        exact ⟨f, rfl, by simp [chosen, Bounds.inverted_notMem_request]⟩
      | ok bounds =>
        right
        have ran := run_of_resolved hl hc rfl hr rfl
        refine ⟨s, (s.resolve bounds (Bounds.request s o.start o.stop o.strict clock).clock).value,
          by rw [hc], by rw [ran], bounds, _, hr, rfl, ?_⟩
        intro start stop
        simp [ran, chosen, Bounds.inverted_notMem_request]

namespace Prints

theorem inverted_iff (h : Prints o env clock s w) :
    w.last < w.first ↔ ∃ start stop, .inverted start stop ∈ (run o env clock).events := by
  obtain ⟨bounds, after, -, rfl, events⟩ := h.resolved
  rw [← Window.isInverted_iff]
  constructor
  · intro hi
    exact ⟨_, _, (events _ _).mpr (Selector.inverted_mem_resolve_iff.mpr
      ⟨Selector.eq_custom_of_isInverted hi, rfl, hi⟩)⟩
  · rintro ⟨start, stop, he⟩
    exact (Selector.inverted_mem_resolve_iff.mp ((events start stop).mp he)).2.2

theorem eq_custom (h : Prints o env clock s w) (hw : w.last < w.first) : s = .custom := by
  obtain ⟨bounds, after, -, rfl, -⟩ := h.resolved
  exact Selector.eq_custom_of_isInverted (Window.isInverted_iff.mpr hw)

theorem ordered_of_strict (h : Prints o env (.fixed now) .custom w) (hs : o.strict = true) :
    w.first ≤ w.last ∧ ∃ startText stopText s t, o.start = some startText ∧ o.stop = some stopText ∧
      (Endpoint.read startText (.fixed now)).1 = .ok s ∧ (Endpoint.read stopText (.fixed now)).1 = .ok t ∧
      s ≤ t := by
  obtain ⟨bounds, after, hr, rfl, -⟩ := h.resolved
  rw [hs] at hr
  obtain ⟨startText, stopText, s, t, first, last, hf, hl, ordered, filled⟩ :=
    Bounds.ordered_of_request_strict hr
  refine ⟨?_, startText, stopText, s, t, first, last, hf, hl, ordered⟩
  rw [Selector.resolve, filled, ← Window.isInverted_eq_false_iff]
  exact Window.isInverted_ofMillis ordered

theorem first_le_last_of_strict (h : Prints o env (.fixed now) s w) (hs : o.strict = true) :
    w.first ≤ w.last := by
  rw [← Int64.not_lt]
  intro hw
  cases h.eq_custom hw
  exact Int64.not_lt.mpr (h.ordered_of_strict hs).1 hw

theorem mem_stderr_iff (h : Prints o env clock s w) (he : .inverted start stop ∈ (run o env clock).events) :
    (Event.inverted start stop).entry ∈ (run o env clock).stderr (Level.shown o.quiet o.verbose) ↔
      o.quiet = false := by
  cases hq : o.quiet with
  | false => simp [Run.entry_mem_stderr he (Event.isShown_of_warn rfl o.verbose)]
  | true => simp [Level.shown, Run.stderr_error h.printed]

end Prints

/-- A run that succeeds prints one window.  If it is inverted then it is a custom one, not read strictly, with a
warning that only quiet runs keep back; there is no such warning with any other window. -/
theorem inverted_window_is_told (hr : CommandLine.read args = .ok o) (hl : o.list = false) (env : Environment)
    (now : Millis) :
    ((execute args env (.fixed now)).exit = 0 →
      ∃ w, (execute args env (.fixed now)).stdout = print o.json w ∧
        (∀ v, (execute args env (.fixed now)).stdout = print o.json v → v = w) ∧
        (w.last < w.first →
          (Selector.choose (o.selectorToken env) (o.fallbackToken env)).1 = .ok .custom ∧ o.strict = false ∧
            ∃ start stop, .inverted start stop ∈ (run o env (.fixed now)).events ∧
              ("WARN custom range is inverted: start=" ++ Text.decimal start.toInt ++ " end=" ++
                Text.decimal stop.toInt ∈ (execute args env (.fixed now)).stderr ↔ o.quiet = false)) ∧
        (o.strict = true →
          w.first ≤ w.last ∧
            ((Selector.choose (o.selectorToken env) (o.fallbackToken env)).1 = .ok .custom →
              ∃ startText stopText s t, o.start = some startText ∧ o.stop = some stopText ∧
                (Endpoint.read startText (.fixed now)).1 = .ok s ∧
                (Endpoint.read stopText (.fixed now)).1 = .ok t ∧ s ≤ t))) ∧
    (∀ start stop, .inverted start stop ∈ (run o env (.fixed now)).events →
      (execute args env (.fixed now)).exit = 0 ∧
        ∃ w, (execute args env (.fixed now)).stdout = print o.json w ∧ w.last < w.first) := by
  rw [execute_of_read hr]
  obtain ⟨f, failed, silent⟩ | ⟨s, w, h⟩ := run_cases hl env (.fixed now)
  · constructor
    · intro he
      simp [Output.ofRun, Run.exit, failed] at he
    · intro start stop he
      exact absurd he (silent start stop)
  · have exit : (run o env (.fixed now)).exit = 0 := by rw [Run.exit, h.printed]
    have stdout : (run o env (.fixed now)).stdout = print o.json w := by rw [Run.stdout, h.printed]
    refine ⟨fun _ => ⟨w, stdout, ?_, ?_, ?_⟩, ?_⟩
    · intro v hv
      exact print_injective (hv.symm.trans stdout)
    · intro hw
      cases h.eq_custom hw
      obtain ⟨start, stop, he⟩ := h.inverted_iff.mp hw
      refine ⟨h.chosen, ?_, start, stop, he, ?_⟩
      · rw [← Bool.not_eq_true]
        intro hs
        exact Int64.not_lt.mpr (h.first_le_last_of_strict hs) hw
      · rw [← Event.entry_inverted]
        exact h.mem_stderr_iff he
    · intro hs
      refine ⟨h.first_le_last_of_strict hs, ?_⟩
      intro hc
      cases h.chosen.symm.trans hc
      exact (h.ordered_of_strict hs).2
    · intro start stop he
      exact ⟨exit, w, stdout, h.inverted_iff.mpr ⟨start, stop, he⟩⟩

theorem reversed_bounds_are_told :
    (∃ start stop : Millis, "WARN custom range is inverted: start=" ++ Text.decimal start.toInt ++ " end=" ++
      Text.decimal stop.toInt ∈ (execute ["custom", "-s", "2000", "-e", "1000"] {} (.fixed 0)).stderr) ∧
      (∃ w, (execute ["custom", "-s", "2000", "-e", "1000"] {} (.fixed 0)).stdout = print false w ∧
        w.last < w.first) ∧
      ∃ w, (execute ["custom", "--strict", "-s", "1000", "-e", "2000"] {} (.fixed 0)).stdout = print false w ∧
        w.first ≤ w.last := by
  have reversed : CommandLine.read ["custom", "-s", "2000", "-e", "1000"] =
      .ok { selector := some "custom", start := some "2000", stop := some "1000" } := by decide
  have strict : CommandLine.read ["custom", "--strict", "-s", "1000", "-e", "2000"] =
      .ok { selector := some "custom", start := some "1000", stop := some "2000", strict := true } := by decide
  refine ⟨?_, ?_, ?_⟩
  · obtain ⟨w, -, only, told, -⟩ := (inverted_window_is_told reversed rfl {} 0).1 (by decide)
    cases only ⟨2000000000, 1000000000⟩ (by decide)
    obtain ⟨-, -, start, stop, -, shown⟩ := told (by decide)
    exact ⟨start, stop, shown.mpr rfl⟩
  · exact ((inverted_window_is_told reversed rfl {} 0).2 2000 1000 (by decide)).2
  · obtain ⟨w, printed, -, -, ordered⟩ := (inverted_window_is_told strict rfl {} 0).1 (by decide)
    exact ⟨w, printed, (ordered rfl).1⟩

end Program

end TimeWindow
