import Mathlib.Data.Bool.AllAny
import TimeWindow.Json.Value
import TimeWindow.Proofs.Text.Decimal
import TimeWindow.Proofs.Text.Digits

namespace TimeWindow.Json

open Text (NoDigitAhead)

variable {missing : Fault} {n : Numeral} {digits text rest : List Char}

/-- Where a number stops: at the end of the text, or before what no number goes on with. -/
def NumeralEnds (s : List Char) : Prop := ∀ c ∈ s.head?, c.isDigit = false ∧ c ∉ ['.', 'e', 'E']

theorem NumeralEnds.noDigitAhead (h : NumeralEnds rest) : NoDigitAhead rest := fun c hc => (h c hc).1

theorem numeralEnds_cons {c : Char} (h : c.isDigit = false ∧ c ∉ ['.', 'e', 'E']) (s : List Char) :
    NumeralEnds (c :: s) := by
  rintro _ ⟨⟩
  exact h

def IsDigits (s : List Char) : Prop := s ≠ [] ∧ ∀ c ∈ s, c.isDigit

theorem IsDigits.exists_cons (h : IsDigits digits) : ∃ d ds, digits = d :: ds ∧ d.isDigit := by
  cases digits with
  | nil => exact absurd rfl h.1
  | cons d ds => exact ⟨d, ds, rfl, h.2 d List.mem_cons_self⟩

theorem someDigits_append (hd : IsDigits digits) (hr : NoDigitAhead rest) :
    someDigits missing (digits ++ rest) = .ok (digits, rest) := by
  obtain ⟨d, ds, hc, first⟩ := hd.exists_cons
  have taken := Text.takeWhile_append_of_noDigitAhead hd.2 hr
  have left := Text.dropWhile_append_of_noDigitAhead hd.2 hr
  rw [hc] at taken left ⊢
  rw [List.cons_append] at taken left ⊢
  simp only [someDigits, first, if_true, taken, left]

def IsWhole (s : List Char) : Prop := IsDigits s ∧ (s.head? = some '0' → s = ['0'])

theorem wholeDigits_append (hw : IsWhole digits) (hr : NoDigitAhead rest) :
    wholeDigits missing (digits ++ rest) = .ok (digits, rest) := by
  obtain ⟨d, ds, rfl, -⟩ := hw.1.exists_cons
  by_cases zero : d = '0'
  · subst zero
    obtain rfl : ds = [] := (List.cons.inj (hw.2 rfl)).2
    cases rest with
    | nil => rfl
    | cons c rest => simp [wholeDigits, hr c rfl]
  · rw [wholeDigits.eq_def]
    split
    · next h => exact absurd (List.cons.inj h).1 zero
    · exact someDigits_append hw.1 hr

theorem isWhole_numeral (k : Nat) : IsWhole (Text.numeral k) := by
  refine ⟨⟨Text.numeral_ne_nil k, fun _ => Text.isDigit_of_mem_numeral⟩, ?_⟩
  intro zero
  by_cases hk : k = 0
  · subst hk
    rfl
  · exact absurd zero (Text.head?_numeral_ne_zero hk)

inductive WritesFraction : Option (List Char) → List Char → Prop
  | none : WritesFraction none []
  | some {digits : List Char} : IsDigits digits → WritesFraction (some digits) ('.' :: digits)

inductive WritesExponent : Option (Bool × List Char) → List Char → Prop
  | none : WritesExponent none []
  | bare {e : Char} {digits : List Char} : e ∈ ['e', 'E'] → IsDigits digits →
      WritesExponent (some (false, digits)) (e :: digits)
  | plus {e : Char} {digits : List Char} : e ∈ ['e', 'E'] → IsDigits digits →
      WritesExponent (some (false, digits)) (e :: '+' :: digits)
  | minus {e : Char} {digits : List Char} : e ∈ ['e', 'E'] → IsDigits digits →
      WritesExponent (some (true, digits)) (e :: '-' :: digits)

inductive Numeral.Written (n : Numeral) : List Char → Prop
  | mk {f e : List Char} : IsWhole n.whole → WritesFraction n.fraction f → WritesExponent n.exponent e →
      Written n ((if n.negative then ['-'] else []) ++ (n.whole ++ (f ++ e)))

theorem exponentDigits_append {e : Option (Bool × List Char)} (he : WritesExponent e text) (hr : NumeralEnds rest) :
    exponentDigits missing (text ++ rest) = .ok (e, rest) := by
  have letter : ∀ {c : Char} (s : List Char), c ∈ ['e', 'E'] → exponentDigits missing (c :: s) =
      (someDigits missing (exponentSign s).2).map fun r => (some ((exponentSign s).1, r.1), r.2) := by
    intro c s hc
    exact if_pos (by simpa using hc)
  cases he with
  | none =>
    rw [List.nil_append]
    unfold exponentDigits
    split
    · rfl
    · next c _ =>
      apply if_neg
      rintro (rfl | rfl) <;> exact absurd (by decide) (hr _ rfl).2
  | bare hc hd =>
    rename_i c digits
    have noSign : exponentSign (digits ++ rest) = (false, digits ++ rest) := by
      obtain ⟨d, ds, rfl, first⟩ := hd.exists_cons
      unfold exponentSign
      split
      · next h => cases h; cases first
      · next h => cases h; cases first
      · rfl
    rw [List.cons_append, letter _ hc, noSign, someDigits_append hd hr.noDigitAhead]
    rfl
  | plus hc hd =>
    rw [List.cons_append, letter _ hc, List.cons_append]
    simp only [exponentSign, someDigits_append hd hr.noDigitAhead]
    rfl
  | minus hc hd =>
    rw [List.cons_append, letter _ hc, List.cons_append]
    simp only [exponentSign, someDigits_append hd hr.noDigitAhead]
    rfl

theorem ahead_of_writesExponent {e : Option (Bool × List Char)} (he : WritesExponent e text)
    (hr : NumeralEnds rest) : ∀ c ∈ (text ++ rest).head?, c.isDigit = false ∧ c ≠ '.' := by
  have letter : ∀ {c : Char} {s : List Char}, c ∈ ['e', 'E'] → ∀ d ∈ (c :: s).head?, d.isDigit = false ∧ d ≠ '.' := by
    rintro c s hc _ ⟨⟩
    have letters : ∀ c ∈ ['e', 'E'], c.isDigit = false ∧ c ≠ '.' := List.all_iff_forall_prop.mp (by decide)
    exact letters c hc
  cases he with
  | none =>
    intro c hc
    obtain ⟨digit, sign⟩ := hr c hc
    exact ⟨digit, List.ne_of_not_mem_cons sign⟩
  | bare hc _ => exact letter hc
  | plus hc _ => exact letter hc
  | minus hc _ => exact letter hc

theorem fractionDigits_append {f : Option (List Char)} (hf : WritesFraction f text)
    (hr : ∀ c ∈ rest.head?, c.isDigit = false ∧ c ≠ '.') :
    fractionDigits missing (text ++ rest) = .ok (f, rest) := by
  cases hf with
  | none =>
    rw [List.nil_append]
    unfold fractionDigits
    split
    · exact absurd rfl (hr _ rfl).2
    · rfl
  | some hd =>
    rw [List.cons_append]
    simp only [fractionDigits, someDigits_append hd fun c hc => (hr c hc).1]
    rfl

theorem noDigitAhead_of_writesFraction {f : Option (List Char)} (hf : WritesFraction f text)
    (hr : NoDigitAhead rest) : NoDigitAhead (text ++ rest) := by
  cases hf with
  | none => exact hr
  | some _ => exact Text.noDigitAhead_cons rfl _

theorem numeral_append (hn : n.Written text) (hr : NumeralEnds rest) :
    numeral missing (text ++ rest) = .ok (n, rest) := by
  obtain ⟨hw, hf, he⟩ := hn
  rename_i f e
  have ahead := ahead_of_writesExponent he hr
  have fraction := noDigitAhead_of_writesFraction hf fun c hc => (ahead c hc).1
  have unsigned : unsignedNumeral missing n.negative (n.whole ++ (f ++ (e ++ rest))) = .ok (n, rest) := by
    simp only [unsignedNumeral, wholeDigits_append hw fraction, fractionDigits_append hf ahead,
      exponentDigits_append he hr, bind, Except.bind, pure, Except.pure]
  simp only [List.append_assoc]
  cases hs : n.negative with
  | true =>
    rw [hs] at unsigned
    simpa [numeral] using unsigned
  | false =>
    rw [hs] at unsigned
    obtain ⟨d, ds, hd, first⟩ := hw.1.exists_cons
    rw [hd] at unsigned ⊢
    rw [numeral.eq_def]
    split
    · next h => cases h; cases first
    · exact unsigned

def Numeral.ofInt (z : Int) : Numeral := ⟨decide (z < 0), Text.numeral z.natAbs, none, none⟩

theorem Numeral.integer?_ofInt (z : Int) : (ofInt z).integer? = some z := by
  simp only [integer?, ofInt, Text.value_numeral, decide_eq_true_eq]
  split
  · rw [if_neg (by omega)]
    congr 1
    omega
  · congr 1
    omega

theorem Numeral.written_ofInt (z : Int) : (ofInt z).Written (Text.signed z) := by
  have written : (ofInt z).Written _ := ⟨isWhole_numeral _, .none, .none⟩
  have text : (if (ofInt z).negative then ['-'] else []) ++ ((ofInt z).whole ++ ([] ++ [])) = Text.signed z := by
    simp only [ofInt, decide_eq_true_eq, Text.signed, List.append_nil]
    split <;> rfl
  rwa [text] at written

theorem exists_cons_of_written (hn : n.Written text) : ∃ c s, text = c :: s ∧ startsNumeral c := by
  obtain ⟨hw, -, -⟩ := hn
  obtain ⟨d, ds, hd, first⟩ := hw.1.exists_cons
  cases hs : n.negative with
  | true => exact ⟨'-', _, rfl, rfl⟩
  | false => exact ⟨d, _, by rw [hd]; rfl, by simp [startsNumeral, first]⟩

theorem isBlank_eq_false_of_startsNumeral {c : Char} (h : startsNumeral c) : isBlank c = false := by
  cases hb : isBlank c with
  | false => rfl
  | true =>
    simp only [isBlank, Bool.or_eq_true, decide_eq_true_eq] at hb
    obtain ((rfl | rfl) | rfl) | rfl := hb <;> exact absurd h (by decide)

theorem skipBlanks_cons {c : Char} (h : isBlank c = false) (s : List Char) : skipBlanks (c :: s) = c :: s :=
  List.dropWhile_cons_of_neg (by simp [h])

theorem integer_append (hn : n.Written text) (hr : NumeralEnds rest) :
    integer (text ++ rest) =
      match n.integer?.bind Word.ofInt? with
      | some w => .ok (w, rest)
      | none => .error n.fault := by
  have read : numeral .truncated (text ++ rest) = .ok (n, rest) := numeral_append hn hr
  obtain ⟨c, s, rfl, starts⟩ := exists_cons_of_written hn
  rw [List.cons_append] at read ⊢
  cases hi : n.integer?.bind Word.ofInt? <;>
    simp only [integer, skipBlanks_cons (isBlank_eq_false_of_startsNumeral starts), if_pos starts, read, hi]

theorem integer_signed (w : Int64) (hr : NumeralEnds rest) :
    integer (Text.signed w.toInt ++ rest) = .ok (w, rest) := by
  simp only [integer_append (Numeral.written_ofInt _) hr, Numeral.integer?_ofInt, Option.bind_some,
    Word.ofInt?_eq_some_iff.mpr rfl]

end TimeWindow.Json
