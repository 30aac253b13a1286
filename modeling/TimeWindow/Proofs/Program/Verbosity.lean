import Mathlib.Data.List.Flatten
import TimeWindow.Proofs.Program.Shown
import TimeWindow.Proofs.Program.Story

namespace TimeWindow

namespace Level

theorem shown_quiet (verbose : Nat) : shown true verbose = error := rfl

theorem shown_of_three_le {verbose : Nat} (h : 3 ≤ verbose) : shown false verbose = trace := by
  obtain ⟨n, rfl⟩ := Nat.exists_eq_add_of_le' h
  rfl

end Level

namespace Event

variable {most more : Level}

theorem isShown_mono (h : most.rank ≤ more.rank) {e : Event} (he : e.isShown most) : e.isShown more := by
  simp only [isShown, decide_eq_true_eq] at *
  exact he.trans h

theorem shownEntries_sublist (h : most.rank ≤ more.rank) (events : List Event) :
    (shownEntries most events).Sublist (shownEntries more events) :=
  (List.monotone_filter_right events fun _ => isShown_mono h).map entry

end Event

namespace Program

variable {args others : List String} {o : Options} {quiet : Bool} {verbose : Nat} {most more : Level}

theorem Run.stderr_sublist (h : most.rank ≤ more.rank) (r : Run) : (r.stderr most).Sublist (r.stderr more) :=
  (Event.shownEntries_sublist h r.events).append_right _

theorem Output.errorLines_sublist {p q : Output} (h : p.stderr.Sublist q.stderr) :
    p.errorLines.Sublist q.errorLines := h.flatMap Text.writtenLines

/-- Options that differ in verbosity alone end alike and tell one story.  Either run shows the events of that story up
to its level, in their order, and then what failed; so the one that lets through less shows a part of what the other
shows. -/
theorem verbosity_filters_one_story (hr : CommandLine.read args = .ok o)
    (hs : CommandLine.read others = .ok { o with quiet, verbose }) (env : Environment) (clock : Clock) :
    (execute others env clock).exit = (execute args env clock).exit ∧
    (execute others env clock).stdout = (execute args env clock).stdout ∧
    (∃ story : Run, (∀ events result, Story o env clock events result ↔ story = ⟨events, result⟩) ∧
      (execute args env clock).stderr =
        (story.events.filter fun e => e.level.rank ≤ (Level.shown o.quiet o.verbose).rank).map Event.entry ++
          story.failureEntries ∧
      (execute others env clock).stderr =
        (story.events.filter fun e => e.level.rank ≤ (Level.shown quiet verbose).rank).map Event.entry ++
          story.failureEntries) ∧
    ((Level.shown o.quiet o.verbose).rank ≤ (Level.shown quiet verbose).rank →
      (execute args env clock).stderr.Sublist (execute others env clock).stderr ∧
      (execute args env clock).errorLines.Sublist (execute others env clock).errorLines) ∧
    (∀ v, Level.shown true v = .error) ∧ Level.shown false 0 = .warn ∧ Level.shown false 1 = .info ∧
      Level.shown false 2 = .debug ∧ ∀ v, 3 ≤ v → Level.shown false v = .trace := by
  have same : run { o with quiet, verbose } env clock = run o env clock := rfl
  rw [execute_of_read hr, execute_of_read hs, same]
  refine ⟨rfl, rfl, ⟨run o env clock, fun _ _ => story_iff, rfl, rfl⟩, ?_, Level.shown_quiet, rfl, rfl, rfl,
    fun _ => Level.shown_of_three_le⟩
  intro less
  have sublist := Run.stderr_sublist less (run o env clock)
  exact ⟨sublist, Output.errorLines_sublist sublist⟩

theorem reversed_window_shown_with_its_selector :
    (execute ["custom", "-v", "-s", "2000", "-e", "1000"] {} (.fixed 0)).stdout =
      (execute ["custom", "-s", "2000", "-e", "1000"] {} (.fixed 0)).stdout ∧
    (execute ["custom", "-s", "2000", "-e", "1000"] {} (.fixed 0)).errorLines.Sublist
      (execute ["custom", "-v", "-s", "2000", "-e", "1000"] {} (.fixed 0)).errorLines ∧
    (execute ["custom", "-s", "2000", "-e", "1000"] {} (.fixed 0)).errorLines =
      ["WARN custom range is inverted: start=2000 end=1000"] ∧
    (execute ["custom", "-v", "-s", "2000", "-e", "1000"] {} (.fixed 0)).errorLines =
      ["WARN custom range is inverted: start=2000 end=1000", "INFO Resolved 'custom' (Custom)"] := by
  have plain : CommandLine.read ["custom", "-s", "2000", "-e", "1000"] =
      .ok { selector := some "custom", start := some "2000", stop := some "1000" } := by decide
  have verbose : CommandLine.read ["custom", "-v", "-s", "2000", "-e", "1000"] =
      .ok { selector := some "custom", start := some "2000", stop := some "1000", verbose := 1 } := by decide
  obtain ⟨-, stdout, -, more, -⟩ := verbosity_filters_one_story plain verbose {} (.fixed 0)
  exact ⟨stdout, (more (by decide)).2, by decide +kernel, by decide +kernel⟩

end Program

end TimeWindow
