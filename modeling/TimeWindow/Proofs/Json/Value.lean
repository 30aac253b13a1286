import TimeWindow.Json.Value
import TimeWindow.Proofs.Json.Grammar

namespace TimeWindow.Json

variable {α : Type} {read : List Char → Result α} {a b : α} {fault : Fault} {s t v rest : List Char}

def Writes (read : List Char → Result α) (t : List Char) (a : α) : Prop :=
  ∀ rest, NumeralEnds rest → read (t ++ rest) = .ok (a, rest)

def Refuses (read : List Char → Result α) (t : List Char) (fault : Fault) : Prop :=
  ∀ rest, NumeralEnds rest → read (t ++ rest) = .error fault

def Settles (read : List Char → Result α) (t : List Char) : Prop :=
  (∃ a, Writes read t a) ∨ Refuses read t .mistyped

structure Shows (read : List Char → Result α) (t : List Char) (a : α) : Prop where
  writes : Writes read t a
  value : IsValue t

/-- A value that makes sense where it is looked at; containers are not looked into. -/
inductive Sensible : List Char → Prop
  | word (w : Int64) : Sensible (Text.signed w.toInt)
  | number {n : Numeral} {t : List Char} : n.Written t → n.isHuge = false → Sensible t
  | string {t cs : List Char} : Spells t cs → Sensible ('"' :: (t ++ ['"']))
  | keyword {w : List Char} : w ∈ keywords → Sensible w
  | container {c : Char} {s : List Char} : c ∈ ['[', '{'] → IsValue (c :: s) → Sensible (c :: s)

theorem isValue_signed (z : Int) : IsValue (Text.signed z) := .number (Numeral.written_ofInt z)

theorem writes_integer (w : Int64) : Writes integer (Text.signed w.toInt) w := fun _ => integer_signed w

theorem shows_integer (w : Int64) : Shows integer (Text.signed w.toInt) w := ⟨writes_integer w, isValue_signed _⟩

theorem integer_blanks (b : Blanks) (s : List Char) : integer (b ++ s) = integer s := by
  simp only [integer, skipBlanks_append]

theorem refuses_integer_huge {n : Numeral} (hn : n.Written t) (hi : n.integer?.bind Word.ofInt? = none) :
    Refuses integer t n.fault := by
  intro rest hr
  rw [integer_append hn hr, hi]

theorem integer_of_wrongType {c : Char} (hc : isBlank c = false) (hs : startsNumeral c = false) (s : List Char) :
    integer (c :: s) = .error (wrongType (c :: s)) := by
  simp only [integer, skipBlanks_cons hc, hs, Bool.false_eq_true, if_false]

theorem settles_integer (h : Sensible v) : Settles integer v := by
  cases h with
  | word w => exact .inl ⟨w, writes_integer w⟩
  | @number n _ hn huge =>
    cases hi : n.integer?.bind Word.ofInt? with
    | none =>
      right
      have fault : n.fault = .mistyped := by simp [Numeral.fault, huge]
      exact fault ▸ refuses_integer_huge hn hi
    | some w =>
      left
      refine ⟨w, fun rest hr => ?_⟩
      rw [integer_append hn hr, hi]
  | string ht =>
    right
    intro rest hr
    rw [List.cons_append, integer_of_wrongType rfl rfl, List.append_assoc]
    simp [wrongType, quoted_append ht, faultOr]
  | keyword hw =>
    right
    intro rest hr
    obtain ⟨c, s, rfl, hc⟩ := exists_cons_of_keyword hw
    have letters : ∀ c ∈ ['n', 't', 'f'],
        isBlank c = false ∧ startsNumeral c = false ∧ c ≠ '"' ∧ ¬(c = '[' ∨ c = '{') :=
      List.all_iff_forall_prop.mp (by decide)
    obtain ⟨blank, number, quote, bracket⟩ := letters c hc
    have skipped := skipScalar_keyword hw rest
    rw [List.cons_append] at skipped ⊢
    rw [integer_of_wrongType blank number]
    simp only [wrongType, number, quote, bracket, skipped, faultOr, if_false, Bool.false_eq_true]
  | @container c s hc _ =>
    right
    intro rest hr
    have brackets : ∀ c ∈ ['[', '{'], isBlank c = false ∧ startsNumeral c = false ∧ c ≠ '"' ∧ (c = '[' ∨ c = '{') :=
      List.all_iff_forall_prop.mp (by decide)
    obtain ⟨blank, number, quote, bracket⟩ := brackets c hc
    rw [List.cons_append, integer_of_wrongType blank number]
    simp only [wrongType, quote, bracket, if_false, if_true]

theorem optionalInteger_blanks (b : Blanks) (s : List Char) : optionalInteger (b ++ s) = optionalInteger s := by
  simp only [optionalInteger, skipBlanks_append, integer_blanks]

theorem shows_null : Shows optionalInteger "null".toList none := by
  refine ⟨fun rest _ => ?_, .keyword List.mem_cons_self⟩
  have letters := keyword_append ['u', 'l', 'l'] rest
  change (keyword ['u', 'l', 'l'] (['u', 'l', 'l'] ++ rest)).map _ = _
  rw [letters]
  rfl

theorem optionalInteger_cons {c : Char} (hb : isBlank c = false) (hc : c ≠ 'n') (s : List Char) :
    optionalInteger (c :: s) = (integer (c :: s)).map fun (w, rest) => (some w, rest) := by
  simp only [optionalInteger, skipBlanks_cons hb, hc, if_false]

theorem Writes.optional {w : Int64} {c : Char} (h : Writes integer (c :: s) w) (hb : isBlank c = false) (hc : c ≠ 'n') :
    Writes optionalInteger (c :: s) (some w) := by
  intro rest hr
  have read := h rest hr
  rw [List.cons_append] at read ⊢
  rw [optionalInteger_cons hb hc, read]
  rfl

theorem Refuses.optional {c : Char} (h : Refuses integer (c :: s) fault) (hb : isBlank c = false) (hc : c ≠ 'n') :
    Refuses optionalInteger (c :: s) fault := by
  intro rest hr
  have read := h rest hr
  rw [List.cons_append] at read ⊢
  rw [optionalInteger_cons hb hc, read]
  rfl

theorem exists_cons_of_number {n : Numeral} (hn : n.Written t) : ∃ c s, t = c :: s ∧ isBlank c = false ∧ c ≠ 'n' := by
  obtain ⟨c, s, ht, hc⟩ := exists_cons_of_written hn
  exact ⟨c, s, ht, isBlank_eq_false_of_startsNumeral hc, ne_of_startsNumeral hc rfl⟩

theorem shows_optionalInteger (w : Int64) : Shows optionalInteger (Text.signed w.toInt) (some w) := by
  obtain ⟨c, s, ht, hb, hc⟩ := exists_cons_of_number (Numeral.written_ofInt w.toInt)
  refine ⟨?_, isValue_signed _⟩
  have reads := writes_integer w
  rw [ht] at reads ⊢
  exact reads.optional hb hc

theorem Sensible.null_or_cons (h : Sensible v) :
    v = "null".toList ∨ ∃ c s, v = c :: s ∧ isBlank c = false ∧ c ≠ 'n' := by
  cases h with
  | word w => exact .inr (exists_cons_of_number (Numeral.written_ofInt w.toInt))
  | number hn _ => exact .inr (exists_cons_of_number hn)
  | string _ => exact .inr ⟨'"', _, rfl, by decide⟩
  | keyword hw =>
    simp only [keywords, List.mem_cons, List.not_mem_nil, or_false] at hw
    obtain rfl | rfl | rfl := hw
    · exact .inl rfl
    · exact .inr ⟨'t', _, rfl, by decide⟩
    · exact .inr ⟨'f', _, rfl, by decide⟩
  | @container c s hc _ =>
    have brackets : ∀ c ∈ ['[', '{'], isBlank c = false ∧ c ≠ 'n' := List.all_iff_forall_prop.mp (by decide)
    exact .inr ⟨c, s, rfl, brackets c hc⟩

theorem settles_optionalInteger (h : Sensible v) : Settles optionalInteger v := by
  obtain rfl | ⟨c, s, rfl, hb, hc⟩ := h.null_or_cons
  · exact .inl ⟨none, shows_null.writes⟩
  · obtain ⟨w, reads⟩ | refused := settles_integer h
    · exact .inl ⟨some w, reads.optional hb hc⟩
    · exact .inr (refused.optional hb hc)

end TimeWindow.Json
