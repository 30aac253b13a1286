import TimeWindow.Proofs.Program.Story

namespace TimeWindow

variable {c d : Clock} {m n : Nat}

def Clock.Alike (n : Nat) (c d : Clock) : Prop := ∀ k < n, c.reading (c.reads + k) = d.reading (d.reads + k)

namespace Clock.Alike

theorem now (h : Alike (n + 1) c d) : c.now = d.now := h 0 (Nat.succ_pos n)

theorem mono (h : Alike n c d) (le : m ≤ n) : Alike m c d := fun k hk => h k (Nat.lt_of_lt_of_le hk le)

theorem tick (h : Alike (n + 1) c d) : Alike n c.tick d.tick := by
  intro k hk
  have next := h (k + 1) (Nat.succ_lt_succ hk)
  simpa only [reading_tick, reads_tick, Nat.add_assoc, Nat.add_comm 1 k] using next

theorem showing_next (c : Clock) (n : Nat) : Alike n (.showing (c.next n)) c := by
  intro k hk
  simp [showing, next, hk]

end Clock.Alike

def Clock.ReadAlike {α : Type} (n : Nat) (x y : α × Clock) : Prop := x.1 = y.1 ∧ Alike n x.2 y.2

theorem Clock.ReadAlike.exists_eq {α : Type} {x y : α × Clock} (h : ReadAlike n x y) :
    ∃ a c d, x = (a, c) ∧ y = (a, d) ∧ Alike n c d := by
  obtain ⟨a, c⟩ := x
  obtain ⟨b, d⟩ := y
  obtain ⟨rfl, later⟩ := h
  exact ⟨a, c, d, rfl, rfl, later⟩

open Clock (Alike ReadAlike)

theorem Endpoint.read_alike (input : String) (h : Alike (n + 1) c d) :
    ReadAlike n (read input c) (read input d) := by
  refine ⟨read_fst_congr input h.now, ?_⟩
  by_cases ago : HeldAgo (Text.trim input.toList)
  · rw [read_snd_of_heldAgo ago, read_snd_of_heldAgo ago]
    exact h.tick
  · obtain ⟨answer, ha⟩ := exists_answer_of_not_heldAgo ago
    rw [ha, ha]
    exact h.mono (Nat.le_succ n)

namespace Bounds

theorem readOne_alike (input : Option String) (h : Alike (n + 1) c d) :
    ReadAlike n (readOne input c) (readOne input d) := by
  cases input with
  | none => exact ⟨rfl, h.mono (Nat.le_succ n)⟩
  | some text =>
    obtain ⟨answer, c', d', hc, hd, later⟩ := (Endpoint.read_alike text h).exists_eq
    rw [readOne_some, readOne_some, hc, hd]
    exact ⟨rfl, later⟩

theorem readBoth_alike (start stop : Option String) (h : Alike (n + 2) c d) :
    ReadAlike n (readBoth start stop c) (readBoth start stop d) := by
  obtain ⟨first, c', d', hc, hd, between⟩ := (readOne_alike start h).exists_eq
  cases first with
  | error e =>
    simp only [readBoth, hc, hd]
    exact ⟨rfl, between.mono (Nat.le_succ n)⟩
  | ok s =>
    obtain ⟨second, c'', d'', hc', hd', later⟩ := (readOne_alike stop between).exists_eq
    cases second with
    | error e =>
      simp only [readBoth, hc, hd, hc', hd']
      exact ⟨rfl, later⟩
    | ok t =>
      simp only [readBoth, hc, hd, hc', hd']
      exact ⟨rfl, later⟩

theorem request_alike (s : Selector) (start stop : Option String) (strict : Bool) (h : Alike (n + 2) c d) :
    (request s start stop strict c).value = (request s start stop strict d).value ∧
      (request s start stop strict c).events = (request s start stop strict d).events ∧
      Alike n (request s start stop strict c).clock (request s start stop strict d).clock := by
  cases s with
  | last span => exact ⟨rfl, rfl, h.mono (Nat.le_add_right n 2)⟩
  | custom =>
    obtain ⟨answer, c', d', hc, hd, later⟩ := (readBoth_alike start stop h).exists_eq
    cases answer with
    | error e =>
      simp only [request, hc, hd, true_and]
      exact later
    | ok b =>
      simp only [request, hc, hd, true_and]
      exact later

end Bounds

theorem Selector.resolve_alike (s : Selector) (bounds : Option Bounds) (h : Alike (n + 1) c d) :
    (s.resolve bounds c).value = (s.resolve bounds d).value ∧
      (s.resolve bounds c).events = (s.resolve bounds d).events := by
  cases s with
  | last span => simp only [resolve, h.now, and_self]
  | custom => exact ⟨rfl, rfl⟩

namespace Program

theorem run_alike (o : Options) (env : Environment) (h : Alike mostReadings c d) : run o env c = run o env d := by
  cases hl : o.list with
  | true => rw [run_of_list hl, run_of_list hl]
  | false =>
    rcases hs : Selector.choose (o.selectorToken env) (o.fallbackToken env) with ⟨f | s, told⟩
    · rw [run_of_not_chosen hl hs, run_of_not_chosen hl hs]
    · obtain ⟨value, events, later⟩ := Bounds.request_alike s o.start o.stop o.strict h
      cases hr : (Bounds.request s o.start o.stop o.strict c).value with
      | error f => rw [run_of_refused hl hs hr, run_of_refused hl hs (value ▸ hr), events]
      | ok bounds =>
        obtain ⟨window, resolved⟩ := s.resolve_alike bounds later
        rw [run_of_resolved hl hs rfl hr rfl, run_of_resolved hl hs rfl (value ▸ hr) rfl, events, window, resolved]

/-- Its next readings are all that a run sees of a clock. -/
theorem execute_showing_next (args : List String) (env : Environment) (clock : Clock) :
    execute args env (.showing (clock.next mostReadings)) = execute args env clock := by
  unfold execute
  cases CommandLine.read args with
  | error stop => rfl
  | ok o => exact congrArg (Output.ofRun _) (run_alike o env (Alike.showing_next clock mostReadings))

end Program

end TimeWindow
