import TimeWindow.Proofs.Program.ErrorLines
import TimeWindow.Proofs.Program.Print

namespace TimeWindow

/-- What a custom window asks of the texts of its bounds: those given can be read, and strictly both are given, in
order. -/
structure Options.Accepted (o : Options) (now : Millis) : Prop where
  start : ∀ text, o.start = some text → ∃ t, (Endpoint.read text (.fixed now)).1 = .ok t
  stop : ∀ text, o.stop = some text → ∃ t, (Endpoint.read text (.fixed now)).1 = .ok t
  ordered : o.strict = true → ∃ startText stopText s t, o.start = some startText ∧ o.stop = some stopText ∧
    (Endpoint.read startText (.fixed now)).1 = .ok s ∧ (Endpoint.read stopText (.fixed now)).1 = .ok t ∧ s ≤ t

namespace Program

variable {args : List String} {o : Options} {env : Environment} {now : Millis} {f : Failure}

/-- The failure of a stage of a run, where the stages before it went well. -/
inductive FirstFailure (o : Options) (env : Environment) (now : Millis) : Failure → Prop
  | selector : ¬ Selector.IsToken (o.selectorToken env) → o.fallbackToken env = none →
    FirstFailure o env now (.selector (o.selectorToken env))
  | fallback {text : String} : ¬ Selector.IsToken (o.selectorToken env) → o.fallbackToken env = some text →
    ¬ Selector.IsToken text → FirstFailure o env now (.fallback text)
  | start {e : Endpoint.Error} : Selector.Chosen (o.selectorToken env) (o.fallbackToken env) .custom →
    (Bounds.readOne o.start (.fixed now)).1 = .error e → FirstFailure o env now (.endpoint e)
  | stop {s : Option Millis} {e : Endpoint.Error} :
    Selector.Chosen (o.selectorToken env) (o.fallbackToken env) .custom →
    (Bounds.readOne o.start (.fixed now)).1 = .ok s →
    (Bounds.readOne o.stop (.fixed now)).1 = .error e → FirstFailure o env now (.endpoint e)
  | bounds {s t : Option Millis} {fault : Bounds.Fault} :
    Selector.Chosen (o.selectorToken env) (o.fallbackToken env) .custom →
    (Bounds.readOne o.start (.fixed now)).1 = .ok s → (Bounds.readOne o.stop (.fixed now)).1 = .ok t →
    o.strict = true → Bounds.check ⟨s, t⟩ = .error fault → FirstFailure o env now (.bounds fault)

theorem firstFailure_iff (hl : o.list = false) :
    (run o env (.fixed now)).result = .error f ↔ FirstFailure o env now f := by
  rw [result_eq_error_iff hl, Selector.choose_eq_error_iff]
  simp only [Selector.choose_eq_ok_iff]
  constructor
  · rintro (⟨unknown, ⟨missing, rfl⟩ | ⟨text, given, unknown', rfl⟩⟩ | ⟨s, chosen, refused⟩)
    · exact .selector unknown missing
    · exact .fallback unknown given unknown'
    · cases s with
      | last span => cases refused
      | custom =>
        obtain ⟨e, unread, rfl⟩ | ⟨b, read, refused⟩ := Bounds.request_custom_eq_error_iff.mp refused
        · obtain unread | ⟨s, read, unread⟩ := Bounds.readBoth_eq_error_iff.mp unread
          · exact .start chosen unread
          · exact .stop chosen read (Bounds.readOne_after_fixed o.start o.stop now ▸ unread)
        · obtain ⟨strict, fault, checked, rfl⟩ := Bounds.filter_eq_error_iff.mp refused
          obtain ⟨first, last⟩ := Bounds.readBoth_fixed_eq_ok_iff.mp read
          exact .bounds chosen first last strict checked
  · intro h
    cases h with
    | selector unknown missing => exact .inl ⟨unknown, .inl ⟨missing, rfl⟩⟩
    | fallback unknown given unknown' => exact .inl ⟨unknown, .inr ⟨_, given, unknown', rfl⟩⟩
    | start chosen unread =>
      refine .inr ⟨.custom, chosen, Bounds.request_custom_eq_error_iff.mpr (.inl ⟨_, ?_, rfl⟩)⟩
      exact Bounds.readBoth_eq_error_iff.mpr (.inl unread)
    | stop chosen read unread =>
      refine .inr ⟨.custom, chosen, Bounds.request_custom_eq_error_iff.mpr (.inl ⟨_, ?_, rfl⟩)⟩
      have unread' := Bounds.readOne_after_fixed o.start o.stop now ▸ unread
      exact Bounds.readBoth_eq_error_iff.mpr (.inr ⟨_, read, unread'⟩)
    | @bounds s t fault chosen first last strict checked =>
      refine .inr ⟨.custom, chosen, Bounds.request_custom_eq_error_iff.mpr (.inr ⟨⟨s, t⟩, ?_, ?_⟩)⟩
      · exact Bounds.readBoth_fixed_eq_ok_iff.mpr ⟨first, last⟩
      · exact Bounds.filter_eq_error_iff.mpr ⟨strict, fault, checked, rfl⟩

theorem exists_request_eq_ok_iff {s : Selector} :
    (∃ bounds, (Bounds.request s o.start o.stop o.strict (.fixed now)).value = .ok bounds) ↔
      (s = .custom → o.Accepted now) := by
  cases s with
  | last span => exact ⟨fun _ h => (nomatch h), fun _ => ⟨none, rfl⟩⟩
  | custom =>
    rw [imp_iff_right rfl]
    constructor
    · rintro ⟨bounds, requested⟩
      obtain ⟨b, read, -⟩ := Bounds.request_custom_eq_ok_iff.mp requested
      obtain ⟨first, last⟩ := Bounds.readBoth_fixed_eq_ok_iff.mp read
      constructor
      · exact Bounds.exists_readOne_eq_ok_iff.mp ⟨_, first⟩
      · exact Bounds.exists_readOne_eq_ok_iff.mp ⟨_, last⟩
      · intro strict
        rw [strict] at requested
        obtain ⟨startText, stopText, s, t, hs, ht, rs, rt, ordered, -⟩ :=
          Bounds.ordered_of_request_strict requested
        exact ⟨startText, stopText, s, t, hs, ht, rs, rt, ordered⟩
    · intro accepted
      obtain ⟨s, first⟩ := Bounds.exists_readOne_eq_ok_iff.mpr accepted.start
      obtain ⟨t, last⟩ := Bounds.exists_readOne_eq_ok_iff.mpr accepted.stop
      refine ⟨_, Bounds.request_custom_eq_ok_iff.mpr ⟨⟨s, t⟩, ?_, Bounds.filter_eq_ok_iff.mpr ⟨rfl, ?_⟩⟩⟩
      · exact Bounds.readBoth_fixed_eq_ok_iff.mpr ⟨first, last⟩
      intro strict
      obtain ⟨startText, stopText, _, _, hs, ht, rs, rt, ordered⟩ := accepted.ordered strict
      rw [hs, Bounds.readOne_some, rs] at first
      rw [ht, Bounds.readOne_some, rt] at last
      cases first
      cases last
      exact ⟨_, Bounds.check_eq_ok_iff.mpr ⟨rfl, ordered⟩⟩

/-- A run prints one line, or fails with a message that tells the first of its failures.  The message is the last line
of the error stream, unless it repeats a text of several lines; and so no line of a run that prints looks like one,
unless the selector asked for is such a text. -/
theorem run_prints_or_fails_first (hr : CommandLine.read args = .ok o) (hl : o.list = false) (env : Environment)
    (now : Millis) :
    ∃ output, execute args env (.fixed now) = output ∧
      (output.exit = 0 ↔ ∃ s, Selector.Chosen (o.selectorToken env) (o.fallbackToken env) s ∧
        (s = .custom → o.Accepted now)) ∧
      (output.exit = 0 → (∃ line, Text.OneLine line ∧ output.stdout = line ++ "\n") ∧
        (∀ message ∈ output.stderr, ¬ "Error:".toList <+: message.toList) ∧
        (Text.OneLine (o.selectorToken env) →
          ∀ line ∈ output.errorLines, ¬ "Error:".toList <+: line.toList)) ∧
      (output.exit ≠ 0 → output.exit = 1 ∧ output.stdout = "" ∧
        ∃ f, FirstFailure o env now f ∧ (∀ g, FirstFailure o env now g → g = f) ∧
          output.stderr.getLast? = some ("Error: " ++ f.message) ∧
          Text.writtenLines ("Error: " ++ f.message) <:+ output.errorLines ∧
          (Text.OneLine f.message → output.errorLines.getLast? = some ("Error: " ++ f.message))) := by
  refine ⟨_, execute_of_read hr, ?_⟩
  have exit : (Output.ofRun (Level.shown o.quiet o.verbose) (run o env (.fixed now))).exit = 0 ↔
      ∃ text, (run o env (.fixed now)).result = .ok text := exit_eq_zero_iff
  refine ⟨?_, ?_, ?_⟩
  · rw [exit, exists_result_eq_ok_iff hl]
    simp only [Selector.choose_eq_ok_iff, exists_request_eq_ok_iff]
  · intro success
    obtain ⟨text, printed⟩ := exit.mp success
    refine ⟨?_, ?_, ?_⟩
    · obtain ⟨s, told, bounds, after, w, -, ran⟩ := exists_resolved_of_ok hl printed
      obtain ⟨line, oneLine, hw⟩ := exists_oneLine_print o.json w
      exact ⟨line, oneLine, by simp [Output.ofRun, Run.stdout, ran, hw]⟩
    · intro message hm
      obtain ⟨e, -, rfl⟩ := Run.exists_entry_of_mem_stderr printed hm
      exact e.not_error_prefix_entry
    · intro oneLine
      apply Output.not_error_prefix_errorLines printed
      intro e he text ht
      obtain rfl | ⟨s, rfl⟩ := quoted_of_mem_events hl printed he ht
      · exact oneLine
      · exact Event.oneLine_token s
  · intro failure
    cases failed : (run o env (.fixed now)).result with
    | ok text => exact absurd (exit.mpr ⟨text, failed⟩) failure
    | error f =>
      obtain ⟨suffix, last⟩ := Output.errorLines_of_error failed
      refine ⟨by simp [Output.ofRun, Run.exit, failed], by simp [Output.ofRun, Run.stdout, failed], f,
        (firstFailure_iff hl).mp failed, ?_, ?_, suffix, last⟩
      · intro g hg
        exact Except.error.inj (((firstFailure_iff hl).mpr hg).symm.trans failed)
      · simp [Output.ofRun, Run.stderr_of_error failed]

theorem reversed_bounds_fail_strictly :
    (execute ["custom", "--strict", "-s", "-2h", "-e", "-1h"] {} (.fixed 7200000)).exit = 0 ∧
      (∃ line, Text.OneLine line ∧
        (execute ["custom", "--strict", "-s", "-2h", "-e", "-1h"] {} (.fixed 7200000)).stdout = line ++ "\n") ∧
      (execute ["custom", "--strict", "-s", "2000", "-e", "1000"] {} (.fixed 0)).exit = 1 ∧
      (execute ["custom", "--strict", "-s", "2000", "-e", "1000"] {} (.fixed 0)).errorLines.getLast? =
        some "Error: custom range start 2000 is after end 1000" := by
  have ordered : CommandLine.read ["custom", "--strict", "-s", "-2h", "-e", "-1h"] =
      .ok { selector := some "custom", start := some "-2h", stop := some "-1h", strict := true } := by decide
  have reversed : CommandLine.read ["custom", "--strict", "-s", "2000", "-e", "1000"] =
      .ok { selector := some "custom", start := some "2000", stop := some "1000", strict := true } := by decide
  obtain ⟨_, rfl, -, printed, -⟩ := run_prints_or_fails_first ordered rfl {} 7200000
  obtain ⟨_, rfl, -, -, failed⟩ := run_prints_or_fails_first reversed rfl {} 0
  have success : (execute ["custom", "--strict", "-s", "-2h", "-e", "-1h"] {} (.fixed 7200000)).exit = 0 := by
    decide
  obtain ⟨exit, -, f, -, only, -, -, last⟩ := failed (by decide)
  have first := only (.bounds (.inverted 2000 1000)) (.bounds (.named rfl) (s := some 2000) (t := some 1000)
    (by decide) (by decide) rfl (by decide))
  subst first
  exact ⟨success, (printed success).1, exit, last (by decide)⟩

theorem message_of_two_lines :
    CommandLine.read ["a\nb"] = .ok { selector := some "a\nb" } ∧
      (execute ["a\nb"] {} (.fixed 1738944000000)).exit = 1 ∧
      FirstFailure { selector := some "a\nb" } {} 1738944000000 (.selector "a\nb") ∧
      (execute ["a\nb"] {} (.fixed 1738944000000)).errorLines.getLast? ≠
        some ("Error: " ++ (Failure.selector "a\nb").message) ∧
      CommandLine.read ["x\nError: y", "--fallback", "1hr"] =
        .ok { selector := some "x\nError: y", fallback := some "1hr" } ∧
      (execute ["x\nError: y", "--fallback", "1hr"] {} (.fixed 1738944000000)).exit = 0 ∧
      "Error: y', falling back to '1hr'" ∈
        (execute ["x\nError: y", "--fallback", "1hr"] {} (.fixed 1738944000000)).errorLines := by
  refine ⟨by decide, by decide, ?_, by decide, by decide, by decide, by decide⟩
  refine .selector ?_ rfl
  rw [← Selector.ofToken?_eq_none_iff]
  decide

end Program

end TimeWindow
