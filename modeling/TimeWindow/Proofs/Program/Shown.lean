import TimeWindow.Program
import TimeWindow.Proofs.Text.Decimal

namespace TimeWindow

namespace Text

theorem visibleChar_of_isDigit {c : Char} (h : c.isDigit) : visibleChar c = [c] := by
  have low : c.toNat ≤ 57 := by
    simp only [Char.isDigit, Bool.and_eq_true, decide_eq_true_eq, ge_iff_le, UInt32.le_iff_toNat_le] at h
    exact h.2
  rw [visibleChar, if_neg, if_neg]
  · omega
  · simp only [List.mem_cons, List.not_mem_nil, or_false]
    rintro (rfl | rfl | rfl | rfl | rfl) <;> exact absurd h (by decide)

theorem flatMap_visibleChar {s : List Char} (h : ∀ c ∈ s, visibleChar c = [c]) :
    s.flatMap visibleChar = s := by
  induction s with
  | nil => rfl
  | cons c s ih =>
    rw [List.flatMap_cons, h c List.mem_cons_self, ih fun d hd => h d (List.mem_cons_of_mem c hd)]
    rfl

theorem visible_append (s t : String) : visible (s ++ t) = visible s ++ visible t := by
  simp only [visible, String.toList_append, List.flatMap_append, String.ofList_append]

theorem visible_decimal (n : Int) : visible (decimal n) = decimal n := by
  rw [visible, decimal, String.toList_ofList, flatMap_visibleChar]
  intro c hc
  cases mem_signed hc with
  | inl h => rw [h]; decide
  | inr h => exact visibleChar_of_isDigit h

end Text

namespace Event

open Text

theorem text_inverted (start stop : Millis) :
    (inverted start stop).text =
      "custom range is inverted: start=" ++ decimal start.toInt ++ " end=" ++ decimal stop.toInt := rfl

theorem entry_inverted (start stop : Millis) :
    (inverted start stop).entry =
      "WARN custom range is inverted: start=" ++ decimal start.toInt ++ " end=" ++ decimal stop.toInt := by
  have head : visible "custom range is inverted: start=" = "custom range is inverted: start=" := by
    decide +kernel
  have middle : visible " end=" = " end=" := by decide +kernel
  rw [entry, text_inverted, visible_append, visible_append, visible_append, head, middle, visible_decimal,
    visible_decimal, ← String.append_assoc, ← String.append_assoc, ← String.append_assoc]
  rfl

theorem visible_token (s : Span) : visible s.token = s.token := by
  cases s <;> decide +kernel

theorem entry_boundsIgnored (s : Span) :
    (boundsIgnored (.last s)).entry = "WARN --start/--end are ignored for selector '" ++ s.token ++ "'" := by
  have head : visible "--start/--end are ignored for selector '" = "--start/--end are ignored for selector '" := by
    decide +kernel
  have last : visible "'" = "'" := by decide +kernel
  change "WARN" ++ " " ++ visible ("--start/--end are ignored for selector '" ++ s.token ++ "'") = _
  rw [visible_append, visible_append, head, visible_token, last, ← String.append_assoc, ← String.append_assoc]
  rfl

theorem isShown_error (e : Event) : e.isShown .error = false := by
  cases e <;> rfl

theorem isShown_of_warn {e : Event} (h : e.level = .warn) (verbose : Nat) :
    e.isShown (Level.shown false verbose) := by
  rw [isShown, h, decide_eq_true_iff]
  unfold Level.shown
  split
  · next hq => cases hq
  · split <;> decide

def shownEntries (most : Level) (events : List Event) : List String := (events.filter (·.isShown most)).map entry

@[simp] theorem shownEntries_append (most : Level) (events later : List Event) :
    shownEntries most (events ++ later) = shownEntries most events ++ shownEntries most later := by
  simp only [shownEntries, List.filter_append, List.map_append]

end Event

namespace Program.Run

variable {r : Run} {text : String} {f : Failure} {most : Level}

theorem stderr_append {events later : List Event} (h : r.events = events ++ later) (most : Level) :
    r.stderr most = Event.shownEntries most events ++ (Event.shownEntries most later ++ r.failureEntries) := by
  rw [stderr, shownEvents, h, ← List.append_assoc, ← Event.shownEntries_append]
  rfl

theorem stderr_of_ok (h : r.result = .ok text) (most : Level) :
    r.stderr most = (r.shownEvents most).map Event.entry := by
  rw [stderr, failureEntries, h, List.append_nil]

theorem stderr_of_error (h : r.result = .error f) (most : Level) :
    r.stderr most = (r.shownEvents most).map Event.entry ++ ["Error: " ++ f.message] := by
  rw [stderr, failureEntries, h]

theorem stderr_error (h : r.result = .ok text) : r.stderr .error = [] := by
  have silent : r.shownEvents .error = [] := List.filter_eq_nil_iff.mpr fun e _ => by simp [Event.isShown_error]
  rw [stderr_of_ok h, silent, List.map_nil]

theorem entry_mem_stderr {e : Event} (h : e ∈ r.events) (hs : e.isShown most) :
    e.entry ∈ r.stderr most := by
  apply List.mem_append_left
  exact List.mem_map_of_mem (List.mem_filter.mpr ⟨h, hs⟩)

theorem exists_entry_of_mem_stderr (h : r.result = .ok text) {message : String} (hm : message ∈ r.stderr most) :
    ∃ e ∈ r.events, e.entry = message := by
  rw [stderr_of_ok h] at hm
  obtain ⟨e, he, rfl⟩ := List.mem_map.mp hm
  exact ⟨e, (List.mem_filter.mp he).1, rfl⟩

end Program.Run

end TimeWindow
