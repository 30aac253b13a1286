import Mathlib.Algebra.Group.Nat.Defs
import Mathlib.Data.List.TakeWhile
import TimeWindow.Text.Bytes
import TimeWindow.Text.Decimal

namespace TimeWindow.Text

/-- Where a text stops being digits: at its end, or before another character. -/
def NoDigitAhead (s : List Char) : Prop := ∀ c ∈ s.head?, c.isDigit = false

theorem noDigitAhead_cons {c : Char} (h : c.isDigit = false) (s : List Char) : NoDigitAhead (c :: s) := by
  rintro _ ⟨⟩
  exact h

theorem noDigitAhead_dropWhile (s : List Char) : NoDigitAhead (s.dropWhile Char.isDigit) := by
  intro c hc
  have h := List.head?_dropWhile_not Char.isDigit s
  rw [Option.mem_def.mp hc] at h
  simpa using h

theorem takeWhile_append_of_noDigitAhead {digits rest : List Char} (hd : ∀ c ∈ digits, c.isDigit)
    (hr : NoDigitAhead rest) : (digits ++ rest).takeWhile Char.isDigit = digits := by
  rw [List.takeWhile_append_of_pos hd]
  cases rest with
  | nil => simp
  | cons c rest => simp [hr c rfl]

theorem dropWhile_append_of_noDigitAhead {digits rest : List Char} (hd : ∀ c ∈ digits, c.isDigit)
    (hr : NoDigitAhead rest) : (digits ++ rest).dropWhile Char.isDigit = rest := by
  rw [List.dropWhile_append_of_pos hd]
  cases rest with
  | nil => rfl
  | cons c rest => simp [hr c rfl]

theorem spanDigits_eq_iff {most : Nat} {s digits rest : List Char} :
    spanDigits most s = (digits, rest) ↔
      s = digits ++ rest ∧ (∀ c ∈ digits, c.isDigit) ∧ digits.length ≤ most ∧
        (digits.length = most ∨ NoDigitAhead rest) := by
  constructor
  · intro h
    have hs := spanDigits_append most s
    rw [h] at hs
    obtain ⟨rfl, -⟩ := Prod.mk.injEq .. ▸ h
    refine ⟨hs.symm, ?_, List.length_take_le _ _, ?_⟩
    · intro c hc
      exact List.mem_takeWhile_imp (List.mem_of_mem_take hc)
    · by_cases hl : (s.takeWhile Char.isDigit).length ≤ most
      · right
        rw [List.take_of_length_le hl] at hs
        have he : rest = s.dropWhile Char.isDigit :=
          List.append_cancel_left (hs.trans List.takeWhile_append_dropWhile.symm)
        rw [he]
        exact noDigitAhead_dropWhile s
      · left
        rw [List.length_take]
        omega
  · rintro ⟨rfl, hd, hl, hr⟩
    have ht : ((digits ++ rest).takeWhile Char.isDigit).take most = digits := by
      cases hr with
      | inl hr => rw [List.takeWhile_append_of_pos hd, ← hr, List.take_left]
      | inr hr => rw [takeWhile_append_of_noDigitAhead hd hr, List.take_of_length_le hl]
    simp only [spanDigits, ht, List.drop_left]

theorem byteSize_of_isDigit {s : List Char} (h : ∀ c ∈ s, c.isDigit) : byteSize s = s.length := by
  induction s with
  | nil => rfl
  | cons c s ih =>
    obtain ⟨hc, hs⟩ := List.forall_mem_cons.mp h
    have ascii : c.utf8Size = 1 := by
      have hc := Char.isDigit_iff_toNat.mp hc
      exact Char.utf8Size_eq_one_iff.mpr (UInt32.le_iff_toNat_le.mpr (Nat.le_trans hc.2 (by decide)))
    rw [byteSize_cons, ih hs, List.length_cons, ascii, Nat.add_comm]

theorem value_cons (c : Char) (s : List Char) : value (c :: s) = 10 ^ s.length * (c.toNat - '0'.toNat) + value s := by
  rw [value, Nat.ofDigitChars_cons, Nat.ofDigitChars_eq_ofDigitChars_zero, Nat.mul_zero, Nat.zero_add, value]

theorem value_append (s t : List Char) : value (s ++ t) = 10 ^ t.length * value s + value t := by
  rw [value, Nat.ofDigitChars_append, Nat.ofDigitChars_eq_ofDigitChars_zero, ← value, ← value]

theorem value_lt {s : List Char} (h : ∀ c ∈ s, c.isDigit) : value s < 10 ^ s.length := by
  induction s with
  | nil => decide
  | cons c s ih =>
    obtain ⟨hc, hs⟩ := List.forall_mem_cons.mp h
    have digit : c.toNat - '0'.toNat + 1 ≤ 10 := by
      have hc := Char.isDigit_iff_toNat.mp hc
      simp only [Char.reduceToNat] at hc ⊢
      omega
    calc value (c :: s) = 10 ^ s.length * (c.toNat - '0'.toNat) + value s := value_cons c s
      _ < 10 ^ s.length * (c.toNat - '0'.toNat) + 10 ^ s.length := Nat.add_lt_add_left (ih hs) _
      _ = 10 ^ s.length * (c.toNat - '0'.toNat + 1) := rfl
      _ ≤ 10 ^ s.length * 10 := Nat.mul_le_mul_left _ digit
      _ = 10 ^ (c :: s).length := rfl

end TimeWindow.Text
