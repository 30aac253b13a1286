import TimeWindow.Proofs.Program.Shown
import TimeWindow.Proofs.Program.Story

namespace TimeWindow

namespace Options

def ignoredEntries (o : Options) (s : Span) : List String :=
  if (o.start.isSome || o.stop.isSome) && !o.quiet && !o.list then
    ["WARN --start/--end are ignored for selector '" ++ s.token ++ "'"]
  else []

theorem ignoredEntries_of_list {o : Options} (hl : o.list = true) (s : Span) : o.ignoredEntries s = [] := by
  simp [ignoredEntries, hl]

theorem shownEntries_ignored {o : Options} (hl : o.list = false) (s : Span) :
    Event.shownEntries (Level.shown o.quiet o.verbose) (o.ignored s) = o.ignoredEntries s := by
  unfold ignored ignoredEntries
  cases o.start.isSome || o.stop.isSome with
  | false => rfl
  | true =>
    cases o.quiet with
    | true => rfl
    | false =>
      have shown := Event.isShown_of_warn (e := .boundsIgnored (.last s)) rfl o.verbose
      rw [if_pos rfl, Event.shownEntries, List.filter_cons_of_pos shown, List.filter_nil, List.map_singleton,
        Event.entry_boundsIgnored, hl]
      rfl

def withoutBounds (o : Options) : Options := { o with start := none, stop := none, strict := false }

end Options

namespace Bounds

variable {start stop : Option String}

theorem exists_answer_of_readOne {input : Option String}
    (h : ∀ text, input = some text → ¬ Endpoint.HeldAgo (Text.trim text.toList)) :
    ∃ answer, ∀ clock, readOne input clock = (answer, clock) := by
  cases input with
  | none => exact ⟨_, fun _ => rfl⟩
  | some text =>
    obtain ⟨answer, ha⟩ := Endpoint.exists_answer_of_not_heldAgo (h text rfl)
    exact ⟨answer.map some, fun clock => by rw [readOne_some, ha]⟩

theorem exists_answer_of_readBoth (clock : Clock)
    (hs : ∀ text, start = some text → ¬ Endpoint.HeldAgo (Text.trim text.toList))
    (ht : ∀ s, (readOne start clock).1 = .ok s →
      ∀ text, stop = some text → ¬ Endpoint.HeldAgo (Text.trim text.toList)) :
    ∃ answer, ∀ other, readBoth start stop other = (answer, other) := by
  obtain ⟨first, hf⟩ := exists_answer_of_readOne hs
  cases first with
  | error e => exact ⟨.error e, fun other => by simp only [readBoth, hf]⟩
  | ok s =>
    obtain ⟨last, hl⟩ := exists_answer_of_readOne (ht s (by rw [hf]))
    cases last with
    | error e => exact ⟨.error e, fun other => by simp only [readBoth, hf, hl]⟩
    | ok t => exact ⟨.ok ⟨s, t⟩, fun other => by simp only [readBoth, hf, hl]⟩

end Bounds

/-- The texts that a custom window reads: its start, and its end where the start is not refused. -/
inductive Options.Reads (o : Options) (clock : Clock) : String → Prop
  | start {text : String} : o.start = some text → o.Reads clock text
  | stop {text : String} {s : Option Millis} : (Bounds.readOne o.start clock).1 = .ok s → o.stop = some text →
    o.Reads clock text

namespace Program

variable {args : List String} {o : Options} {env env' : Environment} {clock other : Clock} {s : Span}

theorem run_congr_environment (hs : o.selectorToken env = o.selectorToken env')
    (hf : o.fallbackToken env = o.fallbackToken env') : run o env clock = run o env' clock := by
  simp only [run, hs, hf]

theorem run_congr_fallback (h : Selector.IsToken (o.selectorToken env)) (fallback fallback' : Option String) :
    run { o with fallback } { env with fallback := fallback' } clock = run o env clock := by
  obtain ⟨selector, token⟩ := h
  have chosen := Selector.choose_of_token token
  have token_eq : Options.selectorToken { o with fallback } { env with fallback := fallback' } =
      o.selectorToken env := rfl
  simp only [run, token_eq, chosen]

theorem run_congr_clock (hc : o.Chosen env .custom)
    (hv : (Bounds.request .custom o.start o.stop o.strict other).value =
      (Bounds.request .custom o.start o.stop o.strict clock).value) :
    run o env other = run o env clock := by
  obtain ⟨events, result, story⟩ := exists_story o env clock
  rw [story.run_eq]
  apply Story.run_eq
  cases story with
  | listed hl => exact .listed hl
  | unknown hl hs hf => exact .unknown hl hs hf
  | unknownFallback hl hs hf ht => exact .unknownFallback hl hs hf ht
  | refused hl _ hr => exact .refused hl hc (hv.trans hr)
  | span hl hs => cases hc.unique hs
  | custom hl _ hr => exact .custom hl hc (hv.trans hr)

theorem run_of_no_ago (hc : o.Chosen env .custom)
    (h : ∀ text, o.Reads clock text → ¬ Endpoint.HeldAgo (Text.trim text.toList)) (other : Clock) :
    run o env other = run o env clock := by
  obtain ⟨answer, ha⟩ := Bounds.exists_answer_of_readBoth clock (fun text hs => h text (.start hs))
    fun s hr text ht => h text (.stop hr ht)
  apply run_congr_clock hc
  simp only [Bounds.request, ha]
  cases answer <;> rfl

theorem run_without_bounds (hc : o.Chosen env (.last s)) (clock : Clock) :
    (run o env clock).result = (run o.withoutBounds env clock).result ∧
    ∃ before after, (run o.withoutBounds env clock).stderr (Level.shown o.quiet o.verbose) = before ++ after ∧
      (run o env clock).stderr (Level.shown o.quiet o.verbose) = before ++ o.ignoredEntries s ++ after := by
  cases hl : o.list with
  | true =>
    rw [run_of_list hl, run_of_list (o := o.withoutBounds) hl, Options.ignoredEntries_of_list hl]
    exact ⟨rfl, [], [], rfl, rfl⟩
  | false =>
    have ignored := Options.shownEntries_ignored hl s
    have bare : o.withoutBounds.ignored s = [] := rfl
    rw [run_of_span hl hc, run_of_span (o := o.withoutBounds) hl hc, bare, List.append_nil]
    refine ⟨rfl, _, _, Run.stderr_append rfl _, ?_⟩
    rw [Run.stderr_append rfl, Event.shownEntries_append, ignored]
    rfl

theorem exit_of_list (hl : o.list = true) : (run o env clock).exit = 0 := by
  rw [run_of_list hl, Run.exit]

theorem stdout_of_list (hl : o.list = true) : (run o env clock).stdout = menuTable := by
  rw [run_of_list hl, Run.stdout]

/-- A variable that an option stands before, the fallback of a known token, the bounds and strictness beside a span but
for one warning, the clock where no bound that is read is some time ago, and all else when the menu is listed: none of
these changes what a run leaves. -/
theorem unused_inputs_change_nothing (hr : CommandLine.read args = .ok o) (env : Environment) (clock : Clock) :
    (o.selector.isSome → ∀ selector, execute args { env with selector } clock = execute args env clock) ∧
    (o.fallback.isSome → ∀ fallback, execute args { env with fallback } clock = execute args env clock) ∧
    (Selector.IsToken (o.selectorToken env) → ∀ others fallback fallback',
      CommandLine.read others = .ok { o with fallback } →
        execute others { env with fallback := fallback' } clock = execute args env clock) ∧
    (∀ s bare, o.Chosen env (.last s) → CommandLine.read bare = .ok o.withoutBounds →
      (execute args env clock).exit = (execute bare env clock).exit ∧
      (execute args env clock).stdout = (execute bare env clock).stdout ∧
      ∃ before after, (execute bare env clock).stderr = before ++ after ∧
        (execute args env clock).stderr = before ++ o.ignoredEntries s ++ after) ∧
    (o.Chosen env .custom → (∀ text, o.Reads clock text → ¬ Endpoint.HeldAgo (Text.trim text.toList)) →
      ∀ other, execute args env other = execute args env clock) ∧
    (o.list = true → (execute args env clock).exit = 0 ∧ ∀ others o' env' clock',
      CommandLine.read others = .ok o' → o'.list = true →
        (execute others env' clock').stdout = (execute args env clock).stdout) := by
  simp only [execute_of_read hr]
  refine ⟨?_, ?_, ?_, ?_, ?_, ?_⟩
  · intro given selector
    obtain ⟨token, ht⟩ := Option.isSome_iff_exists.mp given
    have same : o.selectorToken { env with selector } = o.selectorToken env := by simp [Options.selectorToken, ht]
    exact congrArg _ (run_congr_environment same rfl)
  · intro given fallback
    obtain ⟨token, ht⟩ := Option.isSome_iff_exists.mp given
    have same : o.fallbackToken { env with fallback } = o.fallbackToken env := by simp [Options.fallbackToken, ht]
    exact congrArg _ (run_congr_environment rfl same)
  · intro token others fallback fallback' hs
    rw [execute_of_read hs, run_congr_fallback token]
  · intro s bare chosen hs
    obtain ⟨result, before, after, shown, warned⟩ := run_without_bounds chosen clock
    rw [execute_of_read hs]
    exact ⟨by simp only [Output.ofRun, Run.exit, result], by simp only [Output.ofRun, Run.stdout, result], before,
      after, shown, warned⟩
  · intro chosen fixed other
    rw [run_of_no_ago chosen fixed]
  · intro listed
    refine ⟨exit_of_list listed, fun others o' env' clock' hs listed' => ?_⟩
    rw [execute_of_read hs]
    exact (stdout_of_list listed').trans (stdout_of_list listed).symm

theorem unread_bounds_change_nothing :
    execute ["6hr", "--strict", "-s", "then", "--fallback", "1hr"] { selector := some "5min" } (.fixed 0) =
      execute ["6hr", "--strict", "-s", "then", "--fallback", "1hr"] {} (.fixed 0) ∧
    execute ["6hr", "--strict", "-s", "then", "--fallback", "1hr"] { fallback := some "then" } (.fixed 0) =
      execute ["6hr", "--strict", "-s", "then", "--fallback", "1hr"] {} (.fixed 0) ∧
    execute ["6hr", "--strict", "-s", "then"] { fallback := some "then" } (.fixed 0) =
      execute ["6hr", "--strict", "-s", "then", "--fallback", "1hr"] {} (.fixed 0) ∧
    (execute ["6hr", "--strict", "-s", "then", "--fallback", "1hr"] {} (.fixed 0)).stdout =
      (execute ["6hr", "--fallback", "1hr"] {} (.fixed 0)).stdout ∧
    (∃ before after, (execute ["6hr", "--fallback", "1hr"] {} (.fixed 0)).stderr = before ++ after ∧
      (execute ["6hr", "--strict", "-s", "then", "--fallback", "1hr"] {} (.fixed 0)).stderr =
        before ++ ["WARN --start/--end are ignored for selector '6hr'"] ++ after) ∧
    (∀ now, execute ["custom", "-s", "then", "-e", "-1h"] {} (.fixed now) =
      execute ["custom", "-s", "then", "-e", "-1h"] {} (.fixed 0)) ∧
    (execute ["--list", "-s", "then", "7hr"] {} (.fixed 0)).stdout =
      (execute ["--list"] { selector := some "7hr" } (.fixed 1)).stdout := by
  have six : CommandLine.read ["6hr", "--strict", "-s", "then", "--fallback", "1hr"] =
      .ok { selector := some "6hr", start := some "then", fallback := some "1hr", strict := true } := by decide
  have unaided : CommandLine.read ["6hr", "--strict", "-s", "then"] =
      .ok { selector := some "6hr", start := some "then", strict := true } := by decide
  have bare : CommandLine.read ["6hr", "--fallback", "1hr"] =
      .ok { selector := some "6hr", fallback := some "1hr" } := by decide
  have unread : CommandLine.read ["custom", "-s", "then", "-e", "-1h"] =
      .ok { selector := some "custom", start := some "then", stop := some "-1h" } := by decide
  have listed : CommandLine.read ["--list", "-s", "then", "7hr"] =
      .ok { selector := some "7hr", start := some "then", list := true } := by decide
  have alone : CommandLine.read ["--list"] = .ok { list := true } := by decide
  obtain ⟨selector, fallback, token, span, -⟩ := unused_inputs_change_nothing six {} (.fixed 0)
  obtain ⟨-, -, -, -, custom, -⟩ := unused_inputs_change_nothing unread {} (.fixed 0)
  obtain ⟨-, -, -, -, -, menu⟩ := unused_inputs_change_nothing listed {} (.fixed 0)
  obtain ⟨-, stdout, stderr⟩ := span .hr6 _ (.named rfl) bare
  refine ⟨selector rfl _, fallback rfl _, token ⟨.last .hr6, rfl⟩ _ none _ unaided, stdout, stderr, ?_, ?_⟩
  · refine fun now => custom (.named rfl) ?_ (.fixed now)
    have noColon : Endpoint.dateTime? "then".toList = none :=
      Option.eq_none_iff_forall_ne_some.mpr fun m hm => absurd (Endpoint.colon_mem_of_dateTime? hm) (by decide)
    have trimmed : Text.trim "then".toList = "then".toList := by decide
    have unnamed : Endpoint.ofText? (Text.trim "then".toList) = none := by
      rw [trimmed, Endpoint.ofText?, noColon]
      rfl
    have refused : (Bounds.readOne (some "then") (.fixed 0)).1 = .error ⟨"then", .unrecognized⟩ := by
      rw [Bounds.readOne_some, Endpoint.read_of_none unnamed]
      decide
    intro text read
    cases read with
    | start given =>
      cases given
      rw [Endpoint.heldAgo_iff]
      rintro ⟨t, ago⟩
      cases unnamed.symm.trans ago
    | stop first _ => cases refused.symm.trans first
  · exact ((menu rfl).2 _ _ _ _ alone rfl).symm

end Program

end TimeWindow
