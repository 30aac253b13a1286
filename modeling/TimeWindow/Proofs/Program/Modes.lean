import TimeWindow.Proofs.Json.Record
import TimeWindow.Proofs.Program.Print
import TimeWindow.Proofs.Program.Run

namespace TimeWindow

open Text

namespace Program

variable {o : Options} {env : Environment} {clock : Clock} {w : Window}

theorem run_modes (o : Options) (env : Environment) (clock : Clock) (hl : o.list = false) :
    (∃ events f, ∀ json, run { o with json } env clock = ⟨events, .error f⟩) ∨
      ∃ events w, ∀ json, run { o with json } env clock = ⟨events, .ok (print json w)⟩ := by
  rcases hc : Selector.choose (o.selectorToken env) (o.fallbackToken env) with ⟨f | s, told⟩
  · exact .inl ⟨_, _, fun json => run_of_not_chosen (o := { o with json }) hl hc⟩
  · cases hr : (Bounds.request s o.start o.stop o.strict clock).value with
    | error f =>
      exact .inl ⟨told ++ (Bounds.request s o.start o.stop o.strict clock).events, f,
        fun json => run_of_refused (o := { o with json }) hl hc hr⟩
    | ok bounds => exact .inr ⟨_, _, fun json => run_of_resolved (o := { o with json }) hl hc rfl hr rfl⟩

/-- Two command lines that differ in the form of the output end alike and tell the same, and the line that one
prints as JSON is read as the window whose bounds the other prints. -/
theorem modes_carry_one_window {plain json : List String}
    (hp : CommandLine.read plain = .ok { o with json := false })
    (hj : CommandLine.read json = .ok { o with json := true }) (hl : o.list = false) (env : Environment)
    (clock : Clock) :
    (execute json env clock).exit = (execute plain env clock).exit ∧
    (execute json env clock).stderr = (execute plain env clock).stderr ∧
    ((execute json env clock).exit = 0 → ∃ line w, OneLine line ∧
      (execute json env clock).stdout = line ++ "\n" ∧ Window.ofJson line = .ok w ∧
      (execute plain env clock).stdout = decimal w.first.toInt ++ " " ++ decimal w.last.toInt ++ "\n" ∧
      ∀ m n : Int, (execute plain env clock).stdout = decimal m ++ " " ++ decimal n ++ "\n" →
        w.first.toInt = m ∧ w.last.toInt = n) := by
  rw [execute_of_read hp, execute_of_read hj]
  obtain ⟨events, f, failed⟩ | ⟨events, w, printed⟩ := run_modes o env clock hl
  · rw [failed, failed]
    refine ⟨rfl, rfl, ?_⟩
    intro success
    cases success
  · rw [printed, printed]
    refine ⟨?_, ?_, fun _ => ⟨w.toJson, w, w.oneLine_toJson, rfl, w.ofJson_toJson, rfl, ?_⟩⟩
    · simp only [Output.ofRun, Run.exit]
    · simp only [Output.ofRun, Run.stderr, Run.shownEvents, Run.failureEntries]
    · intro m n h
      exact eq_of_windowText ((String.append_left_inj "\n").mp h)

theorem whole_scale_in_both_modes :
    (execute ["custom", "--json", "-s", "-1m", "-e", "9223372036854775807"] {} (.fixed (Int64.minValue + 60000))).stdout =
      "\x7b\"minTime\":-9223372036854775808,\"maxTime\":9223372036854775807\x7d" ++ "\n" ∧
    ∃ w : Window, w = ⟨Int64.minValue, Int64.maxValue⟩ ∧
      Window.ofJson "\x7b\"minTime\":-9223372036854775808,\"maxTime\":9223372036854775807\x7d" = .ok w ∧
      (execute ["custom", "-s", "-1m", "-e", "9223372036854775807"] {} (.fixed (Int64.minValue + 60000))).stdout =
        decimal w.first.toInt ++ " " ++ decimal w.last.toInt ++ "\n" := by
  have plain : CommandLine.read ["custom", "-s", "-1m", "-e", "9223372036854775807"] =
      .ok { selector := some "custom", start := some "-1m", stop := some "9223372036854775807" } := by decide
  have json : CommandLine.read ["custom", "--json", "-s", "-1m", "-e", "9223372036854775807"] =
      .ok { selector := some "custom", start := some "-1m", stop := some "9223372036854775807", json := true } := by
    decide
  have printed : (execute ["custom", "--json", "-s", "-1m", "-e", "9223372036854775807"] {}
      (.fixed (Int64.minValue + 60000))).stdout =
      "\x7b\"minTime\":-9223372036854775808,\"maxTime\":9223372036854775807\x7d" ++ "\n" := by decide +kernel
  obtain ⟨-, -, agree⟩ := modes_carry_one_window
    (o := { selector := some "custom", start := some "-1m", stop := some "9223372036854775807" }) plain json rfl {}
    (.fixed (Int64.minValue + 60000))
  obtain ⟨line, w, -, shown, read, bare, only⟩ := agree (by decide +kernel)
  refine ⟨printed, w, ?_, ?_, bare⟩
  · obtain ⟨first, last⟩ := only (-9223372036854775808) 9223372036854775807 (by decide +kernel)
    exact Window.ext_toInt first last
  · rw [printed] at shown
    rwa [(String.append_left_inj "\n").mp shown]

end Program

end TimeWindow
