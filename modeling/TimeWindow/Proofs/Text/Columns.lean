import Mathlib.Data.List.Lex
import TimeWindow.Proofs.Text.Decimal
import TimeWindow.Proofs.Text.Digits

namespace TimeWindow.Text

theorem lex_append {α : Type} {r : α → α → Prop} {s t : List α} (h : List.Lex r s t) (length : s.length = t.length)
    (u v : List α) : List.Lex r (s ++ u) (t ++ v) := by
  induction h with
  | nil => cases length
  | rel h => exact .rel h
  | cons _ ih => exact .cons (ih (Nat.succ.inj length))

theorem value_cons_lt_value_cons {c d : Char} {s t : List Char} (hc : c.isDigit) (hs : ∀ c ∈ s, c.isDigit)
    (length : s.length = t.length) (h : c.toNat < d.toNat) : value (c :: s) < value (d :: t) := by
  have digit : c.toNat - '0'.toNat + 1 ≤ d.toNat - '0'.toNat := by
    have hc := Char.isDigit_iff_toNat.mp hc
    simp only [Char.reduceToNat] at hc ⊢
    omega
  calc value (c :: s) = 10 ^ s.length * (c.toNat - '0'.toNat) + value s := value_cons c s
    _ < 10 ^ s.length * (c.toNat - '0'.toNat) + 10 ^ s.length := Nat.add_lt_add_left (value_lt hs) _
    _ = 10 ^ t.length * (c.toNat - '0'.toNat + 1) := by rw [length]; rfl
    _ ≤ 10 ^ t.length * (d.toNat - '0'.toNat) := Nat.mul_le_mul_left _ digit
    _ ≤ 10 ^ t.length * (d.toNat - '0'.toNat) + value t := Nat.le_add_right _ _
    _ = value (d :: t) := (value_cons d t).symm

theorem lex_of_value_lt {s t : List Char} (hs : ∀ c ∈ s, c.isDigit) (ht : ∀ c ∈ t, c.isDigit)
    (length : s.length = t.length) (h : value s < value t) : List.Lex (· < ·) s t := by
  induction s generalizing t with
  | nil =>
    obtain rfl := List.eq_nil_of_length_eq_zero length.symm
    exact absurd h (Nat.lt_irrefl _)
  | cons c s ih =>
    cases t with
    | nil => cases length
    | cons d t =>
      rw [List.forall_mem_cons] at hs ht
      have lengths : s.length = t.length := Nat.succ.inj length
      obtain less | same | greater := Nat.lt_trichotomy c.toNat d.toNat
      · exact .rel (UInt32.lt_iff_toNat_lt.mpr less)
      · obtain rfl : c = d := Char.toNat_inj.mp same
        rw [value_cons, value_cons, lengths] at h
        exact .cons (ih hs.2 ht.2 lengths (Nat.lt_of_add_lt_add_left h))
      · exact absurd (value_cons_lt_value_cons ht.1 ht.2 lengths.symm greater) (Nat.lt_asymm h)

theorem padded_lex_padded {width m n : Nat} (hw : 0 < width) (hn : n < 10 ^ width) (h : m < n) :
    List.Lex (· < ·) (padded width m) (padded width n) := by
  apply lex_of_value_lt (fun c => isDigit_of_mem_padded) (fun c => isDigit_of_mem_padded)
  · rw [length_padded hw hn, length_padded hw (Nat.lt_trans h hn)]
  · rwa [value_padded, value_padded]

structure Column where
  width : Nat
  mark : List Char

def row : List Column → List Nat → List Char
  | c :: columns, n :: numbers => padded c.width n ++ (c.mark ++ row columns numbers)
  | _, _ => []

def rowLength : List Column → Nat
  | [] => 0
  | c :: columns => c.width + (c.mark.length + rowLength columns)

abbrev Fitting : List Column → List Nat → Prop := List.Forall₂ fun c n => 0 < c.width ∧ n < 10 ^ c.width

variable {columns : List Column} {numbers others : List Nat}

theorem length_row (h : Fitting columns numbers) : (row columns numbers).length = rowLength columns := by
  induction h with
  | nil => rfl
  | cons fits _ ih => simp only [row, rowLength, List.length_append, length_padded fits.1 fits.2, ih]

theorem row_lex_row (hm : Fitting columns numbers) (hn : Fitting columns others) (h : List.Lex (· < ·) numbers others) :
    List.Lex (· < ·) (row columns numbers) (row columns others) := by
  induction hm generalizing others with
  | nil =>
    cases hn
    cases h
  | cons fits _ ih =>
    cases hn with
    | cons fits' hn =>
      cases h with
      | rel less =>
        -- the texts differ where the numbers do: columns do not depend on what stands in them
        refine lex_append (padded_lex_padded fits.1 fits'.2 less) ?_ _ _
        rw [length_padded fits.1 fits.2, length_padded fits'.1 fits'.2]
      | cons h => exact .append_left _ (.append_left _ (ih hn h) _) _

end TimeWindow.Text
