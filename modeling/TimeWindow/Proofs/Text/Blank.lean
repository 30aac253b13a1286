import Mathlib.Data.List.Basic
import Mathlib.Data.List.TakeWhile
import TimeWindow.Text.Blank

namespace TimeWindow.Text

theorem isBlank_of_isDigit {c : Char} (h : c.isDigit) : isBlank c = false := by
  have hc := Char.isDigit_iff_toNat.mp h
  simp only [Char.reduceToNat] at hc
  simp only [isBlank, blankRanges, List.any_cons, List.any_nil, Bool.or_false, Bool.or_eq_false_iff,
    Bool.and_eq_false_iff, decide_eq_false_iff_not]
  omega

theorem takeWhile_append_trimStart (s : List Char) : s.takeWhile isBlank ++ trimStart s = s :=
  List.takeWhile_append_dropWhile

theorem trimStart_append {s : List Char} (h : ∀ c ∈ s, isBlank c = false) (hn : s ≠ []) (t : List Char) :
    trimStart (s ++ t) = s ++ t := by
  cases s with
  | nil => exact absurd rfl hn
  | cons c s => exact List.dropWhile_cons_of_neg (by simp [h c List.mem_cons_self])

theorem trimStart_suffix (s : List Char) : trimStart s <:+ s := List.dropWhile_suffix isBlank

theorem trimStart_eq_self_iff {s : List Char} : trimStart s = s ↔ ∀ c ∈ s.head?, isBlank c = false := by
  rw [trimStart, List.dropWhile_eq_self_iff]
  cases s <;> simp

theorem trim_eq_self_iff {s : List Char} :
    trim s = s ↔ (∀ c ∈ s.head?, isBlank c = false) ∧ ∀ c ∈ s.getLast?, isBlank c = false := by
  rw [← trimStart_eq_self_iff, ← List.head?_reverse, ← trimStart_eq_self_iff]
  constructor
  · intro h
    have start : trimStart s = s := by
      apply (trimStart_suffix s).eq_of_length_le
      calc s.length = (trim s).length := by rw [h]
        _ = (trimStart (trimStart s).reverse).length := List.length_reverse
        _ ≤ (trimStart s).reverse.length := (trimStart_suffix _).length_le
        _ = (trimStart s).length := List.length_reverse
    refine ⟨start, ?_⟩
    rw [trim, start, trimEnd] at h
    exact List.reverse_eq_iff.mp h
  · rintro ⟨start, reversed⟩
    rw [trim, start, trimEnd, reversed, List.reverse_reverse]

theorem trim_append_cons_iff {s t : List Char} (sn : s ≠ []) (tn : t ≠ []) (c : Char) :
    trim (s ++ c :: t) = s ++ c :: t ↔ (∀ c ∈ s.head?, isBlank c = false) ∧ ∀ c ∈ t.getLast?, isBlank c = false := by
  rw [trim_eq_self_iff, List.head?_append_of_ne_nil _ sn, List.getLast?_append_of_ne_nil _ (List.cons_ne_nil c t),
    List.getLast?_cons_of_ne_nil tn]

theorem trim_eq_self {s : List Char} (h : ∀ c ∈ s, isBlank c = false) : trim s = s :=
  trim_eq_self_iff.mpr ⟨fun c hc => h c (List.mem_of_mem_head? hc), fun c hc => h c (List.mem_of_getLast? hc)⟩

variable {p q : List Char}

theorem trimStart_blanks_append (hp : ∀ c ∈ p, isBlank c) (s : List Char) : trimStart (p ++ s) = trimStart s :=
  List.dropWhile_append_of_pos hp

theorem trimEnd_append_blanks (s : List Char) (hq : ∀ c ∈ q, isBlank c) : trimEnd (s ++ q) = trimEnd s := by
  have reversed : ∀ c ∈ q.reverse, isBlank c := fun c hc => hq c (List.mem_reverse.mp hc)
  rw [trimEnd, List.reverse_append, trimStart_blanks_append reversed, trimEnd]

theorem trim_append_blanks (s : List Char) (hq : ∀ c ∈ q, isBlank c) : trim (s ++ q) = trim s := by
  by_cases blank : trimStart s = []
  -- the blanks behind a text without a core are blanks in front of nothing
  · have all : ∀ c ∈ s, isBlank c := List.dropWhile_eq_nil_iff.mp blank
    have nothing : trimStart q = [] := List.dropWhile_eq_nil_iff.mpr hq
    rw [trim, trimStart_blanks_append all, nothing, trim, blank]
  · have kept : trimStart (s ++ q) = trimStart s ++ q := by
      rw [trimStart, List.dropWhile_append, if_neg (by rwa [List.isEmpty_iff])]
      rfl
    rw [trim, kept, trimEnd_append_blanks _ hq, trim]

theorem trim_blanks_around (hp : ∀ c ∈ p, isBlank c) (s : List Char) (hq : ∀ c ∈ q, isBlank c) :
    trim (p ++ s ++ q) = trim s := by
  rw [trim_append_blanks _ hq, trim, trimStart_blanks_append hp, trim]

theorem trimEnd_prefix (s : List Char) : trimEnd s <+: s := by
  rw [← List.reverse_suffix, trimEnd, List.reverse_reverse]
  exact trimStart_suffix s.reverse

theorem head?_trimStart_not_blank (s : List Char) : ∀ c ∈ (trimStart s).head?, isBlank c = false := by
  intro c hc
  have head := List.head?_dropWhile_not isBlank s
  rw [trimStart, Option.mem_def] at hc
  rw [hc] at head
  exact head

theorem head?_trim_not_blank (s : List Char) : ∀ c ∈ (trim s).head?, isBlank c = false := by
  obtain ⟨rest, whole⟩ := trimEnd_prefix (trimStart s)
  intro c hc
  apply head?_trimStart_not_blank s
  rw [trim, Option.mem_def] at hc
  rw [← whole, List.head?_append, hc]
  rfl

theorem getLast?_trim_not_blank (s : List Char) : ∀ c ∈ (trim s).getLast?, isBlank c = false := by
  rw [trim, trimEnd, List.getLast?_reverse]
  exact head?_trimStart_not_blank _

theorem trim_trim (s : List Char) : trim (trim s) = trim s :=
  trim_eq_self_iff.mpr ⟨head?_trim_not_blank s, getLast?_trim_not_blank s⟩

theorem exists_blanks_around (s : List Char) :
    ∃ p q, (∀ c ∈ p, isBlank c) ∧ (∀ c ∈ q, isBlank c) ∧ s = p ++ trim s ++ q := by
  refine ⟨s.takeWhile isBlank, ((trimStart s).reverse.takeWhile isBlank).reverse, fun _ => List.mem_takeWhile_imp,
    ?_, ?_⟩
  · intro c hc
    exact List.mem_takeWhile_imp (List.mem_reverse.mp hc)
  · rw [List.append_assoc, trim, trimEnd, ← List.reverse_append, takeWhile_append_trimStart, List.reverse_reverse,
      takeWhile_append_trimStart]

end TimeWindow.Text
