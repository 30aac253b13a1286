import TimeWindow.Proofs.Program.Run
import TimeWindow.Proofs.Selector.Choice
import TimeWindow.Proofs.Window.Request

/-! The story of a run: everything that it tells, in order, and how it ends.  Every run has one story. -/

namespace TimeWindow

def Bounds.warnings (b : Bounds) : List Event :=
  if b.window.isInverted then [.inverted b.filled.1 b.filled.2] else []

theorem Selector.events_resolve_custom (bounds : Option Bounds) (clock : Clock) :
    (custom.resolve bounds clock).events =
      (bounds.getD .absent).warnings ++ [.resolved custom (bounds.getD .absent).window] := by
  simp only [resolve, Bounds.warnings]
  split <;> rfl

namespace Options

def toldOfChoice (o : Options) (env : Environment) : List Event :=
  Selector.toldOfChoice (o.selectorToken env) (o.fallbackToken env)

def Chosen (o : Options) (env : Environment) (s : Selector) : Prop :=
  Selector.Chosen (o.selectorToken env) (o.fallbackToken env) s

def ignored (o : Options) (s : Span) : List Event :=
  if o.start.isSome || o.stop.isSome then [.boundsIgnored (.last s)] else []

end Options

namespace Program

variable {o : Options} {env : Environment} {clock : Clock} {events : List Event} {result : Except Failure String}
  {f : Failure} {s : Span} {bounds : Option Bounds}

/-- What a run tells and how it ends: a case for each of its ways. -/
inductive Story (o : Options) (env : Environment) (clock : Clock) : List Event → Except Failure String → Prop
  | listed : o.list = true → Story o env clock [] (.ok menuTable)
  | unknown : o.list = false → ¬ Selector.IsToken (o.selectorToken env) → o.fallbackToken env = none →
    Story o env clock [] (.error (.selector (o.selectorToken env)))
  | unknownFallback {text : String} : o.list = false → ¬ Selector.IsToken (o.selectorToken env) →
    o.fallbackToken env = some text → ¬ Selector.IsToken text →
    Story o env clock [.fallenBack (o.selectorToken env) text] (.error (.fallback text))
  | refused {f : Failure} : o.list = false → o.Chosen env .custom →
    (Bounds.request .custom o.start o.stop o.strict clock).value = .error f →
    Story o env clock (o.toldOfChoice env) (.error f)
  | span {s : Span} : o.list = false → o.Chosen env (.last s) →
    Story o env clock
      (o.toldOfChoice env ++ o.ignored s ++
        [.resolved (.last s) (s.window clock.now), .chosen (.last s), .spanned (s.window clock.now)])
      (.ok (print o.json (s.window clock.now)))
  | custom {bounds : Option Bounds} : o.list = false → o.Chosen env .custom →
    (Bounds.request .custom o.start o.stop o.strict clock).value = .ok bounds →
    Story o env clock
      (o.toldOfChoice env ++ (bounds.getD .absent).warnings ++
        [.resolved .custom (bounds.getD .absent).window, .chosen .custom, .spanned (bounds.getD .absent).window])
      (.ok (print o.json (bounds.getD .absent).window))

theorem run_of_list (hl : o.list = true) : run o env clock = ⟨[], .ok menuTable⟩ := by
  simp only [run, hl, if_true]

theorem run_of_span (hl : o.list = false) (hc : o.Chosen env (.last s)) :
    run o env clock =
      ⟨o.toldOfChoice env ++ o.ignored s ++
        [.resolved (.last s) (s.window clock.now), .chosen (.last s), .spanned (s.window clock.now)],
        .ok (print o.json (s.window clock.now))⟩ := by
  have requested : Bounds.request (.last s) o.start o.stop o.strict clock = ⟨.ok none, clock, o.ignored s⟩ := rfl
  rw [run_of_resolved hl (Selector.choose_of_chosen hc) requested rfl rfl, Run.mk.injEq]
  exact ⟨List.append_assoc _ _ _, rfl⟩

theorem run_of_custom (hl : o.list = false) (hc : o.Chosen env .custom)
    (hr : (Bounds.request .custom o.start o.stop o.strict clock).value = .ok bounds) :
    run o env clock =
      ⟨o.toldOfChoice env ++ (bounds.getD .absent).warnings ++
        [.resolved .custom (bounds.getD .absent).window, .chosen .custom, .spanned (bounds.getD .absent).window],
        .ok (print o.json (bounds.getD .absent).window)⟩ := by
  rw [run_of_resolved hl (Selector.choose_of_chosen hc) rfl hr rfl, Run.mk.injEq, Bounds.events_request_custom,
    Selector.events_resolve_custom]
  exact ⟨by simp [Options.toldOfChoice, Selector.resolve], rfl⟩

theorem Story.run_eq (h : Story o env clock events result) : run o env clock = ⟨events, result⟩ := by
  cases h with
  | listed hl => exact run_of_list hl
  | unknown hl hs hf =>
    apply run_of_not_chosen hl
    rw [hf]
    exact Selector.choose_of_unknown hs
  | unknownFallback hl hs hf ht =>
    apply run_of_not_chosen hl
    rw [hf]
    exact Selector.choose_of_unknown_fallback hs ht
  | refused hl hc hr =>
    rw [run_of_refused hl (Selector.choose_of_chosen hc) hr, Bounds.events_request_custom, List.append_nil]
    rfl
  | span hl hc => exact run_of_span hl hc
  | custom hl hc hr => exact run_of_custom hl hc hr

theorem exists_story (o : Options) (env : Environment) (clock : Clock) :
    ∃ events result, Story o env clock events result := by
  cases hl : o.list with
  | true => exact ⟨_, _, .listed hl⟩
  | false =>
    cases hc : (Selector.choose (o.selectorToken env) (o.fallbackToken env)).1 with
    | error f =>
      obtain ⟨hs, ⟨hf, -⟩ | ⟨text, hf, ht, -⟩⟩ := Selector.choose_eq_error_iff.mp hc
      · exact ⟨_, _, .unknown hl hs hf⟩
      · exact ⟨_, _, .unknownFallback hl hs hf ht⟩
    | ok selector =>
      have chosen : o.Chosen env selector := Selector.choose_eq_ok_iff.mp hc
      cases selector with
      | last s => exact ⟨_, _, .span hl chosen⟩
      | custom =>
        cases hr : (Bounds.request .custom o.start o.stop o.strict clock).value with
        | error f => exact ⟨_, _, .refused hl chosen hr⟩
        | ok bounds => exact ⟨_, _, .custom hl chosen hr⟩

theorem story_iff : Story o env clock events result ↔ run o env clock = ⟨events, result⟩ := by
  refine ⟨Story.run_eq, ?_⟩
  intro ran
  obtain ⟨events', result', story⟩ := exists_story o env clock
  rw [story.run_eq, Run.mk.injEq] at ran
  obtain ⟨rfl, rfl⟩ := ran
  exact story

end Program

end TimeWindow
