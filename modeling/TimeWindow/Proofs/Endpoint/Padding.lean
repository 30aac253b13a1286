import TimeWindow.Proofs.Endpoint.ClockUse
import TimeWindow.Proofs.Text.Blank

namespace TimeWindow.Endpoint

open Text

variable {input other : String} {clock again : Clock} {e : Error}

def Blank (s : String) : Prop := ∀ c ∈ s.toList, isBlank c

theorem read_eq_of_trim_eq (h : trim input.toList = trim other.toList) (clock : Clock) :
    read input clock = read other clock := by
  simp only [read, readBy, h]

theorem read_error_cases (h : (read input clock).1 = .error e) :
    ofText? (trim input.toList) = none ∧ e = ⟨String.ofList (trim input.toList), .unrecognized⟩ ∨
      (∃ t, ofText? (trim input.toList) = some (ago t)) ∧ e = ⟨String.ofList (trim input.toList), .overflow⟩ := by
  cases named : ofText? (trim input.toList) with
  | none =>
    rw [read_of_none named] at h
    cases h
    exact .inl ⟨rfl, rfl⟩
  | some endpoint =>
    cases endpoint with
    | fixed t =>
      rw [read_of_fixed named] at h
      cases h
    | ago t =>
      have passed : ¬ Word.Fits (clock.now.toInt - t.toInt) := by
        intro fits
        rw [read_of_ago named (Word.toInt_ofInt_of_fits fits)] at h
        cases h
      rw [read_of_ago_of_not_fits named passed] at h
      cases h
      exact .inr ⟨⟨t, rfl⟩, rfl⟩

theorem text_of_read_error (h : (read input clock).1 = .error e) : e.text = String.ofList (trim input.toList) := by
  obtain ⟨-, rfl⟩ | ⟨-, rfl⟩ := read_error_cases h <;> rfl

theorem trim_text_of_read_error (h : (read input clock).1 = .error e) : trim e.text.toList = trim input.toList := by
  rw [text_of_read_error h, String.toList_ofList, trim_trim]

theorem read_text_of_error (h : (read input clock).1 = .error e)
    (same : e.fault = .unrecognized ∨ again.now = clock.now) : (read e.text again).1 = .error e := by
  rw [read_eq_of_trim_eq (trim_text_of_read_error h)]
  obtain now | unrecognized := same.symm
  · rw [read_fst_congr input now, h]
  · obtain ⟨named, rfl⟩ | ⟨-, rfl⟩ := read_error_cases h
    · rw [read_of_none named]
    · cases unrecognized

/-- White space around a text changes nothing that reading it does, neither the answer nor the clock.  The text of an
error is the core of what was read, without white space at its ends, and reads as the same error from the same clock:
from any clock that shows the same instant, and where it names no endpoint from any clock at all. -/
theorem white_space_around_is_not_read (input : String) (clock : Clock) :
    (∀ p q : String, Blank p → Blank q → read (p ++ input ++ q) clock = read input clock) ∧
    ∀ e, (read input clock).1 = .error e →
      (∃ p q, Blank p ∧ Blank q ∧ input = p ++ e.text ++ q) ∧
      (∀ c ∈ e.text.toList.head?, isBlank c = false) ∧ (∀ c ∈ e.text.toList.getLast?, isBlank c = false) ∧
      read e.text clock = read input clock ∧
      ∀ again : Clock, e.fault = .unrecognized ∨ again.now = clock.now → (read e.text again).1 = .error e := by
  constructor
  · intro p q hp hq
    apply read_eq_of_trim_eq
    rw [String.toList_append, String.toList_append, trim_blanks_around hp _ hq]
  · intro e h
    have text := text_of_read_error h
    refine ⟨?_, ?_, ?_, read_eq_of_trim_eq (trim_text_of_read_error h) clock, fun again => read_text_of_error h⟩
    · obtain ⟨p, q, hp, hq, whole⟩ := exists_blanks_around input.toList
      refine ⟨String.ofList p, String.ofList q, ?_, ?_, ?_⟩
      · rwa [Blank, String.toList_ofList]
      · rwa [Blank, String.toList_ofList]
      · rw [text, ← String.ofList_append, ← String.ofList_append, ← whole, String.ofList_toList]
    · rw [text, String.toList_ofList]
      exact head?_trim_not_blank _
    · rw [text, String.toList_ofList]
      exact getLast?_trim_not_blank _

theorem wide_blanks_around_an_offset :
    (Blank "\u3000\u0085" ∧ Blank " \u2009" ∧
      read ("\u3000\u0085" ++ "-1h" ++ " \u2009") (Clock.fixed 0) = read "-1h" (Clock.fixed 0)) ∧
    (read " -1h\u00A0" (Clock.fixed Int64.minValue)).1 = .error ⟨"-1h", .overflow⟩ ∧
    (read "-1h" (Clock.fixed Int64.minValue).tick).1 = .error ⟨"-1h", .overflow⟩ ∧
    (read "\u2028\u205F" (Clock.fixed 0)).1 = .error ⟨"", .unrecognized⟩ ∧
    (read "" (Clock.stepping 5 5)).1 = .error ⟨"", .unrecognized⟩ := by
  have front : Blank "\u3000\u0085" := List.all_eq_true.mp (by decide)
  have behind : Blank " \u2009" := List.all_eq_true.mp (by decide)
  have early : (read " -1h\u00A0" (Clock.fixed Int64.minValue)).1 = .error ⟨"-1h", .overflow⟩ := by decide
  have named : ofText? (trim "\u2028\u205F".toList) = none := ofText?_eq_none rfl rfl (by decide) (by decide)
  have nothing : (read "\u2028\u205F" (Clock.fixed 0)).1 = .error ⟨"", .unrecognized⟩ := by
    rw [read_of_none named]
    rfl
  have padded := (white_space_around_is_not_read "-1h" (Clock.fixed 0)).1 _ _ front behind
  refine ⟨⟨front, behind, padded⟩, early, ?_, nothing, ?_⟩
  · exact ((white_space_around_is_not_read _ _).2 _ early).2.2.2.2 _ (.inr rfl)
  · exact ((white_space_around_is_not_read _ _).2 _ nothing).2.2.2.2 _ (.inl rfl)

end TimeWindow.Endpoint
