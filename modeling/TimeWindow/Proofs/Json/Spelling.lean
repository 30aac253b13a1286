import TimeWindow.Json.Quoted

namespace TimeWindow.Json

variable {c : Char} {n : Nat} {s t u cs rest : List Char}

def IsPlain (c : Char) : Prop := c ≠ '"' ∧ c ≠ '\\' ∧ isControl c = false

instance : DecidablePred IsPlain := fun _ => inferInstanceAs (Decidable (_ ∧ _))

def escapes : List (Char × Char) :=
  [('"', '"'), ('\\', '\\'), ('/', '/'), ('b', '\x08'), ('f', '\x0c'), ('n', '\n'), ('r', '\r'), ('t', '\t')]

def hexDigits : List (Char × Nat) := "0123456789abcdef".toList.zipIdx ++ "ABCDEF".toList.zipIdx 10

inductive HexUnit : List Char → Nat → Prop
  | mk {a b c d : Char} {i j k l : Nat} : (a, i) ∈ hexDigits → (b, j) ∈ hexDigits → (c, k) ∈ hexDigits →
      (d, l) ∈ hexDigits → HexUnit [a, b, c, d] (4096 * i + 256 * j + 16 * k + l)

inductive Spelling (c : Char) : List Char → Prop
  | plain : IsPlain c → Spelling c [c]
  | letter {l : Char} : (l, c) ∈ escapes → Spelling c ['\\', l]
  | unit {u : List Char} : HexUnit u c.toNat → Spelling c ('\\' :: 'u' :: u)
  | pair {u v : List Char} {n : Nat} : c.toNat = 0x10000 + n → HexUnit u (0xD800 + n / 0x400) →
      HexUnit v (0xDC00 + n % 0x400) → Spelling c ('\\' :: 'u' :: (u ++ '\\' :: 'u' :: v))

/-- What stands between quotes, and the characters that it spells. -/
inductive Spells : List Char → List Char → Prop
  | nil : Spells [] []
  | cons {c : Char} {t s cs : List Char} : Spelling c t → Spells s cs → Spells (t ++ s) (c :: cs)

inductive Quotable : List Char → Prop
  | nil : Quotable []
  | plain {c : Char} {s : List Char} : IsPlain c → Quotable s → Quotable (c :: s)
  | letter {l c : Char} {s : List Char} : (l, c) ∈ escapes → Quotable s → Quotable ('\\' :: l :: s)
  | unit {u s : List Char} {n : Nat} : HexUnit u n → Quotable s → Quotable ('\\' :: 'u' :: (u ++ s))

theorem spells_plain (h : s.all (IsPlain ·)) : Spells s s := by
  induction s with
  | nil => exact .nil
  | cons c s ih =>
    obtain ⟨hc, hs⟩ := Bool.and_eq_true_iff.mp h
    exact .cons (.plain (of_decide_eq_true hc)) (ih hs)

theorem Spelling.quotable (h : Spelling c t) (hs : Quotable s) : Quotable (t ++ s) := by
  cases h with
  | plain hc => exact .plain hc hs
  | letter hl => exact .letter hl hs
  | unit hu => exact .unit hu hs
  | pair _ hu hv =>
    simp only [List.cons_append, List.append_assoc]
    exact .unit hu (.unit hv hs)

theorem Spells.quotable (h : Spells t cs) : Quotable t := by
  induction h with
  | nil => exact .nil
  | cons hc _ ih => exact hc.quotable ih

theorem escaped?_of_mem_escapes {l : Char} (h : (l, c) ∈ escapes) : escaped? l = some c := by
  have all : ∀ p ∈ escapes, escaped? p.1 = some p.2 := by decide
  exact all _ h

theorem ne_u_of_mem_escapes {l : Char} (h : (l, c) ∈ escapes) : l ≠ 'u' := by
  have all : ∀ p ∈ escapes, p.1 ≠ 'u' := by decide
  exact all _ h

theorem hexDigit?_of_mem_hexDigits (h : (c, n) ∈ hexDigits) : hexDigit? c = some n := by
  have all : ∀ p ∈ hexDigits, hexDigit? p.1 = some p.2 := by decide
  exact all _ h

theorem hexUnit_append (h : HexUnit u n) (rest : List Char) : hexUnit (u ++ rest) = .ok (n, rest) := by
  obtain ⟨ha, hb, hc, hd⟩ := h
  simp only [List.cons_append, List.nil_append, hexUnit, hexDigit?_of_mem_hexDigits ha,
    hexDigit?_of_mem_hexDigits hb, hexDigit?_of_mem_hexDigits hc, hexDigit?_of_mem_hexDigits hd]
  congr 2
  omega

theorem quoted_quote (rest : List Char) : quoted ('"' :: rest) = .ok ([], rest) := by
  rw [quoted]
  exact if_pos rfl

theorem quoted_plain (h : IsPlain c) (s : List Char) :
    quoted (c :: s) = (quoted s).map fun (cs, rest) => (c :: cs, rest) := by
  obtain ⟨quote, backslash, control⟩ := h
  rw [quoted]
  simp only [quote, backslash, control, if_false, Bool.false_eq_true]

theorem quoted_escape (h : escape s = .ok (c, rest)) :
    quoted ('\\' :: s) = (quoted rest).map fun (cs, rest) => (c :: cs, rest) := by
  rw [quoted, if_neg (by decide), if_pos rfl]
  split
  · next he =>
    rw [h] at he
    cases he
  · next he =>
    rw [h] at he
    cases he
    rfl

theorem not_surrogate (c : Char) : isLowSurrogate c.toNat = false ∧ isHighSurrogate c.toNat = false := by
  have valid : c.toNat < 0xD800 ∨ 0xDFFF < c.toNat ∧ c.toNat < 0x110000 := c.valid
  simp only [isLowSurrogate, isHighSurrogate, Bool.and_eq_false_iff, decide_eq_false_iff_not]
  omega

theorem quoted_escape_error {fault : Fault} (h : escape s = .error fault) : quoted ('\\' :: s) = .error fault := by
  rw [quoted, if_neg (by decide), if_pos rfl]
  split
  · next he =>
    rw [h] at he
    cases he
    rfl
  · next he =>
    rw [h] at he
    cases he

theorem unicodeEscape_unit (h : HexUnit u c.toNat) (rest : List Char) :
    unicodeEscape (u ++ rest) = .ok (c, rest) := by
  simp [unicodeEscape, hexUnit_append h, not_surrogate c]

theorem lowSurrogate_unit (hu : HexUnit u n) (hn : isLowSurrogate n) (rest : List Char) :
    lowSurrogate ('\\' :: 'u' :: (u ++ rest)) = .ok (n, rest) := by
  simp only [lowSurrogate, hexUnit_append hu, hn, if_true]

theorem unicodeEscape_pair {v : List Char} (hc : c.toNat = 0x10000 + n) (hu : HexUnit u (0xD800 + n / 0x400))
    (hv : HexUnit v (0xDC00 + n % 0x400)) (rest : List Char) :
    unicodeEscape (u ++ '\\' :: 'u' :: (v ++ rest)) = .ok (c, rest) := by
  have valid : c.toNat < 0xD800 ∨ 0xDFFF < c.toNat ∧ c.toNat < 0x110000 := c.valid
  have high : isLowSurrogate (0xD800 + n / 0x400) = false ∧ isHighSurrogate (0xD800 + n / 0x400) = true := by
    simp only [isLowSurrogate, isHighSurrogate, Bool.and_eq_false_iff, Bool.and_eq_true, decide_eq_true_eq,
      decide_eq_false_iff_not]
    omega
  have low : isLowSurrogate (0xDC00 + n % 0x400) = true := by
    simp only [isLowSurrogate, Bool.and_eq_true, decide_eq_true_eq]
    omega
  have joined : 0x10000 + (0xD800 + n / 0x400 - 0xD800) * 0x400 + (0xDC00 + n % 0x400 - 0xDC00) = c.toNat := by
    omega
  simp only [unicodeEscape, hexUnit_append hu, high, if_true, if_false, Bool.false_eq_true,
    lowSurrogate_unit hv low, joined, Char.ofNat_toNat]

theorem quoted_spelling (h : Spelling c t) (s : List Char) :
    quoted (t ++ s) = (quoted s).map fun (cs, rest) => (c :: cs, rest) := by
  cases h with
  | plain h => exact quoted_plain h s
  | letter h =>
    apply quoted_escape
    simp [escape, ne_u_of_mem_escapes h, escaped?_of_mem_escapes h]
  | unit h =>
    apply quoted_escape
    exact unicodeEscape_unit h s
  | pair hc hu hv =>
    apply quoted_escape
    simpa [escape] using unicodeEscape_pair hc hu hv s

theorem quoted_append (h : Spells t cs) (rest : List Char) : quoted (t ++ '"' :: rest) = .ok (cs, rest) := by
  induction h with
  | nil => exact quoted_quote rest
  | cons hc _ ih =>
    rw [List.append_assoc, quoted_spelling hc, ih]
    rfl

theorem skipQuoted_escape (h : skipEscape s = .ok rest) : skipQuoted ('\\' :: s) = skipQuoted rest := by
  rw [skipQuoted, if_neg (by decide), if_pos rfl]
  split
  · next he =>
    rw [h] at he
    cases he
  · next he =>
    rw [h] at he
    cases he
    rfl

theorem skipQuoted_append (h : Quotable s) (rest : List Char) : skipQuoted (s ++ '"' :: rest) = .ok rest := by
  induction h with
  | nil =>
    rw [List.nil_append, skipQuoted]
    exact if_pos rfl
  | plain hc _ ih =>
    obtain ⟨quote, backslash, control⟩ := hc
    rw [List.cons_append, skipQuoted]
    simp only [quote, backslash, control, if_false, Bool.false_eq_true, ih]
  | letter hl _ ih =>
    rw [List.cons_append, List.cons_append, skipQuoted_escape, ih]
    simp [skipEscape, ne_u_of_mem_escapes hl, escaped?_of_mem_escapes hl]
  | unit hu _ ih =>
    rw [List.cons_append, List.cons_append, List.append_assoc, skipQuoted_escape, ih]
    simp [skipEscape, hexUnit_append hu, Except.map]

end TimeWindow.Json
