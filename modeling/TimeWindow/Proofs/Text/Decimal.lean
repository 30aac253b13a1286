import Mathlib.Algebra.Group.Nat.Defs
import Mathlib.Data.List.Basic
import TimeWindow.Text.Decimal

namespace TimeWindow.Text

theorem isDigit_of_mem_numeral {n : Nat} {c : Char} (h : c ∈ numeral n) : c.isDigit :=
  Nat.isDigit_of_mem_toDigits (by decide) (by decide) h

theorem numeral_ne_nil (n : Nat) : numeral n ≠ [] := Nat.toDigits_ne_nil

theorem isDigit_of_mem_padded {width n : Nat} {c : Char} (h : c ∈ padded width n) : c.isDigit := by
  rw [padded, List.leftpad, List.mem_append, List.mem_replicate] at h
  obtain ⟨-, rfl⟩ | h := h
  · decide
  · exact isDigit_of_mem_numeral h

theorem padded_ne_nil (width n : Nat) : padded width n ≠ [] := by
  simp [padded, List.leftpad, numeral_ne_nil]

theorem length_padded {width n : Nat} (hw : 0 < width) (hn : n < 10 ^ width) :
    (padded width n).length = width := by
  have h : (numeral n).length ≤ width := (Nat.length_toDigits_le_iff (by decide) hw).mpr hn
  rw [padded, List.length_leftpad]
  omega

theorem head?_numeral_ne_zero {n : Nat} (hn : n ≠ 0) : (numeral n).head? ≠ some '0' := by
  induction n using Nat.strongRecOn with
  | ind n ih =>
    by_cases h : n < 10
    · have digits : ∀ n < 10, n ≠ 0 → (numeral n).head? ≠ some '0' := by decide
      exact digits n h hn
    · rw [numeral, Nat.toDigits_of_base_le (by decide) (by omega), List.head?_append_of_ne_nil _ Nat.toDigits_ne_nil]
      exact ih (n / 10) (by omega) (by omega)

theorem numeral_injective {m n : Nat} (h : numeral m = numeral n) : m = n := by
  rw [← value_numeral m, h, value_numeral]

theorem mem_signed {n : Int} {c : Char} (h : c ∈ signed n) : c = '-' ∨ c.isDigit := by
  unfold signed at h
  split at h
  · exact (List.mem_cons.mp h).imp_right isDigit_of_mem_numeral
  · exact .inr (isDigit_of_mem_numeral h)

theorem hyphen_ne_numeral (n : Nat) (s : List Char) : '-' :: s ≠ numeral n := by
  intro h
  have hd := isDigit_of_mem_numeral (h ▸ List.mem_cons_self)
  exact absurd hd (by decide)

theorem signed_injective {m n : Int} (h : signed m = signed n) : m = n := by
  unfold signed at h
  split at h
  · split at h
    · have := numeral_injective (List.cons.inj h).2
      omega
    · exact absurd h (hyphen_ne_numeral _ _)
  · split at h
    · exact absurd h.symm (hyphen_ne_numeral _ _)
    · have := numeral_injective h
      omega

theorem takeWhile_ne_signed {c : Char} (hc : c ≠ '-') (hd : c.isDigit = false) (n : Int) (s : List Char) :
    (signed n ++ c :: s).takeWhile (· != c) = signed n := by
  have absent : ∀ d ∈ signed n, d != c := by
    intro d hmem
    rw [bne_iff_ne]
    rintro rfl
    cases mem_signed hmem with
    | inl he => exact hc he
    | inr hk => exact absurd (hd.symm.trans hk) Bool.false_ne_true
  rw [List.takeWhile_append_of_pos absent, List.takeWhile_cons_of_neg (by simp), List.append_nil]

theorem signed_append_inj {m n : Int} {c : Char} {s t : List Char} (hc : c ≠ '-') (hd : c.isDigit = false)
    (h : signed m ++ c :: s = signed n ++ c :: t) : m = n ∧ s = t := by
  have numerals : signed m = signed n := by
    rw [← takeWhile_ne_signed hc hd m s, h, takeWhile_ne_signed hc hd]
  rw [numerals] at h
  exact ⟨signed_injective numerals, (List.cons.inj (List.append_cancel_left h)).2⟩

end TimeWindow.Text
