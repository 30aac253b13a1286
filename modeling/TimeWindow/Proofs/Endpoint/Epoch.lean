import Mathlib.Data.Nat.Digits.Defs
import TimeWindow.Proofs.Endpoint.DateTime
import TimeWindow.Proofs.Text.Decimal

namespace TimeWindow

theorem Text.value_eq_ofDigits (s : List Char) :
    value s = Nat.ofDigits 10 (s.reverse.map fun c => c.toNat - '0'.toNat) := by
  induction s with
  | nil => rfl
  | cons c s ih =>
    rw [value_cons, ih, List.reverse_cons, List.map_append, Nat.ofDigits_append, List.map_singleton,
      Nat.ofDigits_singleton, List.length_map, List.length_reverse, Nat.add_comm]

namespace Endpoint

open Text

variable {s : List Char} {clock : Clock}

theorem epoch?_of_isDigit (hn : s ≠ []) (hd : ∀ c ∈ s, c.isDigit) : epoch? s = Word.ofInt? (value s) :=
  if_pos ⟨hn, List.all_eq_true.mpr hd⟩

theorem isDigit_eq_false_of_mem_units {u : Char} {unit : Nat} (h : (u, unit) ∈ units) : u.isDigit = false := by
  have letters : ∀ p ∈ units, p.1.isDigit = false := by decide
  exact letters _ h

theorem offset?_eq_none_of_isDigit (h : ∀ c ∈ s.tail, c.isDigit) : offset? s = none := by
  rw [Option.eq_none_iff_forall_ne_some]
  intro t ht
  obtain ⟨n, unit, digits, u, rfl, -, -, -, hu⟩ := exists_writtenAgo_of_offset? ht
  have digit : u.isDigit := h u (List.mem_append_right _ (List.mem_singleton_self u))
  exact absurd (digit.symm.trans (isDigit_eq_false_of_mem_units hu)) (by decide)

theorem not_mem_of_isDigit {c : Char} (hd : ∀ c ∈ s, c.isDigit) (hc : c.isDigit = false) : c ∉ s := fun h =>
  absurd (hc.symm.trans (hd c h)) Bool.false_ne_true

theorem ofText?_digits (hn : s ≠ []) (hd : ∀ c ∈ s, c.isDigit) : ofText? s = (Word.ofInt? (value s)).map fixed := by
  have epoch := epoch?_of_isDigit hn hd
  cases h : Word.ofInt? (value s) with
  | none =>
    have offset : offset? s = none := offset?_eq_none_of_isDigit fun c hc => hd c (List.mem_of_mem_tail hc)
    exact ofText?_eq_none (epoch.trans h) offset (not_mem_of_isDigit hd rfl) (not_mem_of_isDigit hd rfl)
  | some t => exact ofText?_eq_some_iff.mpr (.inl ⟨t, epoch.trans h, rfl⟩)

theorem ofText?_hyphen_digits (hd : ∀ c ∈ s, c.isDigit) : ofText? ('-' :: s) = none := by
  have letter : 'T' ∉ '-' :: s := List.not_mem_cons_of_ne_of_not_mem (by decide) (not_mem_of_isDigit hd rfl)
  have colon : ':' ∉ '-' :: s := List.not_mem_cons_of_ne_of_not_mem (by decide) (not_mem_of_isDigit hd rfl)
  exact ofText?_eq_none rfl (offset?_eq_none_of_isDigit hd) letter colon

theorem trim_digits (hd : ∀ c ∈ s, c.isDigit) : trim s = s := trim_eq_self fun c hc => isBlank_of_isDigit (hd c hc)

theorem trim_hyphen_digits (hd : ∀ c ∈ s, c.isDigit) : trim ('-' :: s) = '-' :: s :=
  trim_eq_self (List.forall_mem_cons.mpr ⟨rfl, fun c hc => isBlank_of_isDigit (hd c hc)⟩)

theorem read_digits (hn : s ≠ []) (hd : ∀ c ∈ s, c.isDigit) {t : Millis} (h : t.toInt = value s) (clock : Clock) :
    read (String.ofList s) clock = (.ok t, clock) := by
  refine read_of_fixed ?_
  rw [String.toList_ofList, trim_digits hd, ofText?_digits hn hd, Word.ofInt?_eq_some_iff.mpr h]
  rfl

theorem read_digits_of_not_fits (hn : s ≠ []) (hd : ∀ c ∈ s, c.isDigit) (h : ¬ Word.Fits (value s)) (clock : Clock) :
    read (String.ofList s) clock = (.error ⟨String.ofList s, .unrecognized⟩, clock) := by
  refine read_unrecognized (trim_digits hd) ?_ clock
  rw [ofText?_digits hn hd, Word.ofInt?_eq_none_iff.mpr h]
  rfl

theorem read_hyphen_digits (hd : ∀ c ∈ s, c.isDigit) (clock : Clock) :
    read (String.ofList ('-' :: s)) clock = (.error ⟨String.ofList ('-' :: s), .unrecognized⟩, clock) :=
  read_unrecognized (trim_hyphen_digits hd) (ofText?_hyphen_digits hd) clock

theorem read_decimal_of_nonneg {n : Millis} (h : 0 ≤ n) (clock : Clock) :
    read (decimal n.toInt) clock = (.ok n, clock) := by
  have nonneg : 0 ≤ n.toInt := Int64.le_iff_toInt_le.mp h
  rw [decimal, signed, if_neg (Int.not_lt.mpr nonneg)]
  refine read_digits (numeral_ne_nil _) (fun c => isDigit_of_mem_numeral) ?_ clock
  rw [value_numeral]
  exact (Int.natAbs_of_nonneg nonneg).symm

theorem read_decimal_of_neg {n : Millis} (h : n < 0) (clock : Clock) :
    read (decimal n.toInt) clock = (.error ⟨decimal n.toInt, .unrecognized⟩, clock) := by
  have neg : n.toInt < 0 := Int64.lt_iff_toInt_lt.mp h
  rw [decimal, signed, if_pos neg]
  exact read_hyphen_digits (fun c => isDigit_of_mem_numeral) clock

/-- Digits are read as the number that they stand for in base ten if a word holds it, and are nothing else if none does.
So the numbers from 0 on are read back from their numerals, and those below are not. -/
theorem epoch_numerals_read_exactly (clock : Clock) :
    (∀ digits, digits ≠ [] → (∀ c ∈ digits, c.isDigit) →
      ∃ n : Nat, n = Nat.ofDigits 10 (digits.reverse.map fun c => c.toNat - '0'.toNat) ∧
        (n ≤ 2 ^ 63 - 1 → ∃ t, read (String.ofList digits) clock = (.ok t, clock) ∧ t.toInt = n) ∧
        (2 ^ 63 - 1 < n →
          read (String.ofList digits) clock = (.error ⟨String.ofList digits, .unrecognized⟩, clock))) ∧
    (∀ n : Millis, (read (decimal n.toInt) clock = (.ok n, clock) ↔ 0 ≤ n) ∧
      (n < 0 → read (decimal n.toInt) clock = (.error ⟨decimal n.toInt, .unrecognized⟩, clock))) ∧
    "Unrecognized format".toList <+: Fault.unrecognized.reason.toList := by
  refine ⟨?_, ?_, by decide +kernel⟩
  · intro digits hn hd
    refine ⟨value digits, value_eq_ofDigits digits, ?_, ?_⟩
    · intro h
      have fits : Word.Fits (value digits) := by
        simp only [Word.Fits, Word.least, Word.greatest]
        omega
      exact ⟨_, read_digits hn hd (Word.toInt_ofInt_of_fits fits) clock, Word.toInt_ofInt_of_fits fits⟩
    · intro h
      refine read_digits_of_not_fits hn hd ?_ clock
      simp only [Word.Fits, Word.greatest]
      omega
  · intro n
    refine ⟨⟨?_, fun h => read_decimal_of_nonneg h clock⟩, fun h => read_decimal_of_neg h clock⟩
    intro h
    by_contra hn
    rw [read_decimal_of_neg (Int64.not_le.mp hn)] at h
    cases h

theorem last_word_read_behind_zeros :
    (∃ t, read "000009223372036854775807" (.fixed 0) = (.ok t, .fixed 0) ∧ t.toInt = 9223372036854775807) ∧
      read "9223372036854775808" (.fixed 0) = (.error ⟨"9223372036854775808", .unrecognized⟩, .fixed 0) ∧
      read "-9223372036854775808" (.fixed 0) = (.error ⟨"-9223372036854775808", .unrecognized⟩, .fixed 0) := by
  have reads := epoch_numerals_read_exactly (.fixed 0)
  refine ⟨?_, ?_, ?_⟩
  · obtain ⟨_, rfl, fits, -⟩ := reads.1 "000009223372036854775807".toList (by decide) (List.all_eq_true.mp (by decide))
    exact fits (by decide)
  · obtain ⟨_, rfl, -, passes⟩ := reads.1 "9223372036854775808".toList (by decide) (List.all_eq_true.mp (by decide))
    exact passes (by decide)
  · exact (reads.2.1 Int64.minValue).2 (by decide)

end Endpoint

end TimeWindow
