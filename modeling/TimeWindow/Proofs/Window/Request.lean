import TimeWindow.Proofs.Endpoint.ClockUse
import TimeWindow.Proofs.Window.Order
import TimeWindow.Request

namespace TimeWindow

namespace Endpoint

theorem now_read_fixed (input : String) (now : Millis) : (read input (.fixed now)).2.now = now := by
  by_cases h : HeldAgo (Text.trim input.toList)
  · rw [read_snd_of_heldAgo h]
    rfl
  · obtain ⟨answer, ha⟩ := exists_answer_of_not_heldAgo h
    rw [ha]
    rfl

end Endpoint

namespace Bounds

variable {b : Bounds} {bounds : Option Bounds} {start stop : Option String} {strict : Bool} {clock : Clock}
  {s t now : Millis}

theorem check_eq_ok_iff : b.check = .ok (s, t) ↔ b = ⟨some s, some t⟩ ∧ s ≤ t := by
  constructor
  · unfold check
    intro h
    split at h
    · cases h
    · cases h
    · split at h
      · cases h
      · next hle =>
        cases h
        exact ⟨rfl, Int64.not_lt.mp hle⟩
  · rintro ⟨rfl, h⟩
    exact if_neg (Int64.not_lt.mpr h)

theorem check_eq_inverted_iff : b.check = .error (.inverted s t) ↔ b = ⟨some s, some t⟩ ∧ t < s := by
  constructor
  · unfold check
    intro h
    split at h
    · cases h
    · cases h
    · split at h
      · next hlt =>
        cases h
        exact ⟨rfl, hlt⟩
      · cases h
  · rintro ⟨rfl, h⟩
    exact if_pos h

@[simp] theorem getD_given? (b : Bounds) : b.given?.getD absent = b := by
  unfold given?
  split
  · next h => exact h.symm
  · rfl

theorem given?_of_start (h : b.start = some s) : b.given? = some b := by
  apply if_neg
  rintro rfl
  cases h

theorem filter_eq_ok_iff :
    b.filter strict = .ok bounds ↔ bounds = b.given? ∧ (strict = true → ∃ p, b.check = .ok p) := by
  cases strict with
  | false => simp [filter, eq_comm]
  | true => cases h : b.check <;> simp [filter, h, eq_comm]

theorem filter_eq_error_iff {f : Failure} :
    b.filter strict = .error f ↔ strict = true ∧ ∃ fault, b.check = .error fault ∧ f = .bounds fault := by
  cases strict with
  | false => simp [filter]
  | true => cases h : b.check <;> simp [filter, h, eq_comm]

theorem readOne_some (text : String) (clock : Clock) :
    readOne (some text) clock = ((Endpoint.read text clock).1.map some, (Endpoint.read text clock).2) := by
  simp only [readOne]
  split
  · next h => rw [h]; rfl
  · next h => rw [h]; rfl

theorem exists_text_of_readOne {input : Option String} (h : (readOne input clock).1 = .ok (some t)) :
    ∃ text, input = some text ∧ (Endpoint.read text clock).1 = .ok t := by
  cases input with
  | none => cases h
  | some text =>
    rw [readOne_some] at h
    cases hr : (Endpoint.read text clock).1 with
    | error e =>
      rw [hr] at h
      cases h
    | ok u =>
      rw [hr] at h
      cases h
      exact ⟨text, rfl, hr⟩

theorem exists_readOne_eq_ok_iff {input : Option String} :
    (∃ t, (readOne input clock).1 = .ok t) ↔
      ∀ text, input = some text → ∃ t, (Endpoint.read text clock).1 = .ok t := by
  cases input with
  | none => simp [readOne]
  | some text =>
    rw [readOne_some]
    cases h : (Endpoint.read text clock).1 <;> simp [Except.map, h]

theorem readOne_fst_congr (input : Option String) {c d : Clock} (h : c.now = d.now) :
    (readOne input c).1 = (readOne input d).1 := by
  cases input with
  | none => rfl
  | some text => rw [readOne_some, readOne_some, Endpoint.read_fst_congr text h]

theorem now_readOne_fixed (input : Option String) (now : Millis) :
    (readOne input (.fixed now)).2.now = now := by
  cases input with
  | none => rfl
  | some text => rw [readOne_some, Endpoint.now_read_fixed]

theorem readBoth_eq_ok_iff :
    (readBoth start stop clock).1 = .ok b ↔
      (readOne start clock).1 = .ok b.start ∧ (readOne stop (readOne start clock).2).1 = .ok b.stop := by
  cases b
  rcases hs : readOne start clock with ⟨_ | s, after⟩
  · simp [readBoth, hs]
  · rcases ht : readOne stop after with ⟨_ | t, last⟩ <;> simp [readBoth, hs, ht]

theorem readBoth_eq_error_iff {e : Endpoint.Error} :
    (readBoth start stop clock).1 = .error e ↔
      (readOne start clock).1 = .error e ∨
        ∃ s, (readOne start clock).1 = .ok s ∧ (readOne stop (readOne start clock).2).1 = .error e := by
  rcases hs : readOne start clock with ⟨_ | s, after⟩
  · simp [readBoth, hs]
  · rcases ht : readOne stop after with ⟨_ | t, last⟩ <;> simp [readBoth, hs, ht]

theorem readOne_after_fixed (start stop : Option String) (now : Millis) :
    (readOne stop (readOne start (.fixed now)).2).1 = (readOne stop (.fixed now)).1 :=
  readOne_fst_congr stop (now_readOne_fixed start now)

theorem readBoth_fixed_eq_ok_iff :
    (readBoth start stop (.fixed now)).1 = .ok b ↔
      (readOne start (.fixed now)).1 = .ok b.start ∧ (readOne stop (.fixed now)).1 = .ok b.stop := by
  rw [readBoth_eq_ok_iff, readOne_after_fixed]

theorem request_custom_eq_ok_iff :
    (request .custom start stop strict clock).value = .ok bounds ↔
      ∃ b, (readBoth start stop clock).1 = .ok b ∧ b.filter strict = .ok bounds := by
  cases h : readBoth start stop clock with
  | mk answer after => cases answer <;> simp [request, h]

theorem request_custom_eq_error_iff {f : Failure} :
    (request .custom start stop strict clock).value = .error f ↔
      (∃ e, (readBoth start stop clock).1 = .error e ∧ f = .endpoint e) ∨
        ∃ b, (readBoth start stop clock).1 = .ok b ∧ b.filter strict = .error f := by
  cases h : readBoth start stop clock with
  | mk answer after => cases answer <;> simp [request, h, eq_comm]

@[simp] theorem events_request_custom (start stop : Option String) (strict : Bool) (clock : Clock) :
    (request .custom start stop strict clock).events = [] := by
  simp only [request]
  split <;> rfl

theorem inverted_notMem_request (selector : Selector) :
    .inverted s t ∉ (request selector start stop strict clock).events := by
  cases selector with
  | last span =>
    simp only [request]
    split <;> simp
  | custom => simp

theorem ordered_of_request_strict
    (h : (request .custom start stop true (.fixed now)).value = .ok bounds) :
    ∃ startText stopText s t, start = some startText ∧ stop = some stopText ∧
      (Endpoint.read startText (.fixed now)).1 = .ok s ∧ (Endpoint.read stopText (.fixed now)).1 = .ok t ∧
      s ≤ t ∧ bounds.getD absent = ⟨some s, some t⟩ := by
  obtain ⟨b, hr, hf⟩ := request_custom_eq_ok_iff.mp h
  obtain ⟨rfl, checked⟩ := filter_eq_ok_iff.mp hf
  obtain ⟨⟨s, t⟩, hc⟩ := checked rfl
  obtain ⟨rfl, ordered⟩ := check_eq_ok_iff.mp hc
  obtain ⟨first, second⟩ := readBoth_fixed_eq_ok_iff.mp hr
  obtain ⟨startText, rfl, hs⟩ := exists_text_of_readOne first
  obtain ⟨stopText, rfl, ht⟩ := exists_text_of_readOne second
  exact ⟨startText, stopText, s, t, rfl, rfl, hs, ht, ordered, getD_given? _⟩

end Bounds

end TimeWindow
