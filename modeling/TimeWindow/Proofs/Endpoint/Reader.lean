import TimeWindow.Endpoint.Format
import TimeWindow.Proofs.Text.Blank
import TimeWindow.Proofs.Text.Digits

namespace TimeWindow.Endpoint

open Calendar Text

theorem skip?_eq_some_iff {c : Char} {s rest : List Char} : skip? c s = some rest ↔ s = c :: rest := by
  cases s with
  | nil => simp [skip?]
  | cons d s =>
    by_cases h : d = c
    · simp [skip?, h]
    · simp [skip?, h]

theorem Reader.whole_eq_some_iff {α : Type} {read : Reader α} {s : List Char} {a : α} :
    read.whole s = some a ↔ read s = some (a, []) := by
  unfold Reader.whole
  split
  · next h => simp [h]
  · next h =>
    constructor
    · intro e
      cases e
    · intro e
      exact absurd e (h a)

theorem digits?_eq_some_iff {count n : Nat} {s rest : List Char} :
    digits? count s = some (n, rest) ↔
      ∃ digits, spanDigits count s = (digits, rest) ∧ digits.length = count ∧ value digits = n := by
  simp only [digits?]
  split
  · next h => simp [Prod.ext_iff]; grind
  · next h => simp; grind

theorem digits?_append {digits : List Char} (h : ∀ c ∈ digits, c.isDigit) (rest : List Char) :
    digits? digits.length (digits ++ rest) = some (value digits, rest) := by
  have span : spanDigits digits.length (digits ++ rest) = (digits, rest) :=
    spanDigits_eq_iff.mpr ⟨rfl, h, Nat.le_refl _, .inl rfl⟩
  exact digits?_eq_some_iff.mpr ⟨digits, span, rfl, rfl⟩

theorem upTo?_eq_some_iff {most n : Nat} {s rest : List Char} :
    upTo? most s = some (n, rest) ↔
      ∃ digits, spanDigits most s = (digits, rest) ∧ digits ≠ [] ∧ value digits = n := by
  simp only [upTo?]
  split
  · next h => simp; grind
  · next h => simp [Prod.ext_iff]; grind

theorem upTo?_cons_of_not_isDigit {most : Nat} {c : Char} {s : List Char} (h : c.isDigit = false) :
    upTo? most (c :: s) = none := by
  simp [upTo?, spanDigits, h]

theorem year?_eq_some_iff {s rest : List Char} {y : Int} :
    year? s = some (y, rest) ↔
      (∃ r n, trimStart s = '+' :: r ∧ upTo? r.length r = some (n, rest) ∧ y = n) ∨
      (∃ r n, trimStart s = '-' :: r ∧ upTo? r.length r = some (n, rest) ∧ y = -n) ∨
      ∃ n, upTo? 4 (trimStart s) = some (n, rest) ∧ y = n := by
  simp only [year?]
  split
  · next r h =>
    have hn : upTo? 4 ('+' :: r) = none := upTo?_cons_of_not_isDigit rfl
    simp [h, hn, eq_comm (a := y)]
  · next r h =>
    have hn : upTo? 4 ('-' :: r) = none := upTo?_cons_of_not_isDigit rfl
    simp [h, hn, eq_comm (a := y)]
  · next hp hm =>
    have noPlus : ∀ r, trimStart s ≠ '+' :: r := hp
    have noMinus : ∀ r, trimStart s ≠ '-' :: r := hm
    simp [noPlus, noMinus, eq_comm (a := y)]

theorem date?_eq_some_iff {s rest : List Char} {d : Date} :
    date? s = some (d, rest) ↔
      ∃ month day, year? s = some (d.year, '-' :: month) ∧ number? month = some (d.month, '-' :: day) ∧
        number? day = some (d.day, rest) := by
  simp only [date?, Option.bind_eq_bind, Option.bind_eq_some_iff, Prod.exists, skip?_eq_some_iff,
    Option.pure_def, Option.some.injEq, Prod.mk.injEq]
  constructor
  · rintro ⟨_, _, hy, month, rfl, _, _, hm, day, rfl, _, _, hd, rfl, rfl⟩
    exact ⟨month, day, hy, hm, hd⟩
  · rintro ⟨month, day, hy, hm, hd⟩
    exact ⟨_, _, hy, month, rfl, _, _, hm, day, rfl, _, _, hd, rfl, rfl⟩

theorem strictDate?_eq_some_iff {s rest : List Char} {d : Date} :
    strictDate? s = some (d, rest) ↔
      ∃ year month day, digits? 4 s = some (year, '-' :: month) ∧ d.year = year ∧
        digits? 2 month = some (d.month, '-' :: day) ∧ digits? 2 day = some (d.day, rest) := by
  simp only [strictDate?, Option.bind_eq_bind, Option.bind_eq_some_iff, Prod.exists, skip?_eq_some_iff,
    Option.pure_def, Option.some.injEq, Prod.mk.injEq]
  constructor
  · rintro ⟨year, _, hy, month, rfl, _, _, hm, day, rfl, _, _, hd, rfl, rfl⟩
    exact ⟨year, month, day, hy, rfl, hm, hd⟩
  · rintro ⟨year, month, day, hy, hd, hm, hday⟩
    exact ⟨year, _, hy, month, rfl, _, _, hm, day, rfl, _, _, hday, by rw [← hd], rfl⟩

theorem hourMinute?_eq_some_iff {s rest : List Char} {t : TimeOfDay} :
    hourMinute? s = some (t, rest) ↔
      ∃ hour minute tail, number? s = some (hour, ':' :: tail) ∧ number? tail = some (minute, rest) ∧
        t = ⟨hour, minute, 0, 0⟩ := by
  simp only [hourMinute?, Option.bind_eq_bind, Option.bind_eq_some_iff, Prod.exists, skip?_eq_some_iff,
    Option.pure_def, Option.some.injEq, Prod.mk.injEq]
  constructor
  · rintro ⟨hour, _, hh, tail, rfl, minute, _, hm, rfl, rfl⟩
    exact ⟨hour, minute, tail, hh, hm, rfl⟩
  · rintro ⟨hour, minute, tail, hh, hm, rfl⟩
    exact ⟨hour, _, hh, tail, rfl, minute, _, hm, rfl, rfl⟩

theorem hourMinuteSecond?_eq_some_iff {s rest : List Char} {t : TimeOfDay} :
    hourMinuteSecond? s = some (t, rest) ↔
      ∃ hm second tail, hourMinute? s = some (hm, ':' :: tail) ∧ number? tail = some (second, rest) ∧
        t = { hm with second } := by
  simp only [hourMinuteSecond?, Option.bind_eq_bind, Option.bind_eq_some_iff, Prod.exists,
    skip?_eq_some_iff, Option.pure_def, Option.some.injEq, Prod.mk.injEq]
  constructor
  · rintro ⟨hm, _, hh, tail, rfl, second, _, hs, rfl, rfl⟩
    exact ⟨hm, second, tail, hh, hs, rfl⟩
  · rintro ⟨hm, second, tail, hh, hs, rfl⟩
    exact ⟨hm, _, hh, tail, rfl, second, _, hs, rfl, rfl⟩

theorem hourMinuteFraction?_eq_some_iff {s rest : List Char} {t : TimeOfDay} :
    hourMinuteFraction? s = some (t, rest) ↔
      ∃ hms milli tail, hourMinuteSecond? s = some (hms, tail) ∧ fraction? tail = some (milli, rest) ∧
        t = { hms with milli } := by
  simp only [hourMinuteFraction?, Option.bind_eq_bind, Option.bind_eq_some_iff, Prod.exists,
    Option.pure_def, Option.some.injEq, Prod.mk.injEq]
  constructor
  · rintro ⟨hms, tail, hh, milli, _, hf, rfl, rfl⟩
    exact ⟨hms, milli, tail, hh, hf, rfl⟩
  · rintro ⟨hms, milli, tail, hh, hf, rfl⟩
    exact ⟨hms, tail, hh, milli, _, hf, rfl, rfl⟩

def Reader.Over {α : Type} (P : Char → Prop) (read : Reader α) : Prop :=
  ∀ ⦃s a rest⦄, read s = some (a, rest) → ∃ taken, s = taken ++ rest ∧ ∀ c ∈ taken, P c

def IsFieldChar (c : Char) : Prop := isBlank c ∨ c.isDigit ∨ c ∈ ['+', '-', ':', '.']

instance (c : Char) : Decidable (IsFieldChar c) := inferInstanceAs (Decidable (_ ∨ _))

theorem upTo?_over (most : Nat) : (upTo? most).Over IsFieldChar := by
  intro s n rest h
  obtain ⟨digits, hs, -, -⟩ := upTo?_eq_some_iff.mp h
  obtain ⟨rfl, hd, -, -⟩ := spanDigits_eq_iff.mp hs
  refine ⟨digits, rfl, ?_⟩
  intro c hc
  exact .inr (.inl (hd c hc))

theorem exists_blanks_append {s rest : List Char} (taken : List Char) (h : trimStart s = taken ++ rest)
    (hc : ∀ c ∈ taken, IsFieldChar c) : ∃ all, s = all ++ rest ∧ ∀ c ∈ all, IsFieldChar c := by
  refine ⟨s.takeWhile isBlank ++ taken, ?_, ?_⟩
  · rw [List.append_assoc, ← h, takeWhile_append_trimStart]
  · intro c hm
    cases List.mem_append.mp hm with
    | inl hm => exact .inl (List.mem_takeWhile_imp hm)
    | inr hm => exact hc c hm

theorem number?_over : number?.Over IsFieldChar := by
  intro s n rest h
  obtain ⟨taken, ht, hc⟩ := upTo?_over 2 h
  exact exists_blanks_append taken ht hc

theorem year?_over : year?.Over IsFieldChar := by
  intro s y rest h
  obtain ⟨r, n, ht, hn, -⟩ | ⟨r, n, ht, hn, -⟩ | ⟨n, hn, -⟩ := year?_eq_some_iff.mp h
  · obtain ⟨taken, rfl, hc⟩ := upTo?_over _ hn
    exact exists_blanks_append ('+' :: taken) ht (List.forall_mem_cons.mpr ⟨by decide, hc⟩)
  · obtain ⟨taken, rfl, hc⟩ := upTo?_over _ hn
    exact exists_blanks_append ('-' :: taken) ht (List.forall_mem_cons.mpr ⟨by decide, hc⟩)
  · obtain ⟨taken, ht, hc⟩ := upTo?_over _ hn
    exact exists_blanks_append taken ht hc

theorem date?_over : date?.Over IsFieldChar := by
  intro s d rest h
  obtain ⟨month, day, hy, hm, hd⟩ := date?_eq_some_iff.mp h
  obtain ⟨y, rfl, cy⟩ := year?_over hy
  obtain ⟨m, rfl, cm⟩ := number?_over hm
  obtain ⟨d, rfl, cd⟩ := number?_over hd
  refine ⟨y ++ '-' :: m ++ '-' :: d, by simp, ?_⟩
  have hyphen : IsFieldChar '-' := by decide
  simp only [List.mem_append, List.mem_cons]
  grind

theorem hourMinute?_over : hourMinute?.Over IsFieldChar := by
  intro s t rest h
  obtain ⟨hour, minute, tail, hh, hm, -⟩ := hourMinute?_eq_some_iff.mp h
  obtain ⟨a, rfl, ca⟩ := number?_over hh
  obtain ⟨b, rfl, cb⟩ := number?_over hm
  refine ⟨a ++ ':' :: b, by simp, ?_⟩
  have colon : IsFieldChar ':' := by decide
  simp only [List.mem_append, List.mem_cons]
  grind

theorem hourMinuteSecond?_over : hourMinuteSecond?.Over IsFieldChar := by
  intro s t rest h
  obtain ⟨hm, second, tail, hh, hs, -⟩ := hourMinuteSecond?_eq_some_iff.mp h
  obtain ⟨a, rfl, ca⟩ := hourMinute?_over hh
  obtain ⟨b, rfl, cb⟩ := number?_over hs
  refine ⟨a ++ ':' :: b, by simp, ?_⟩
  have colon : IsFieldChar ':' := by decide
  simp only [List.mem_append, List.mem_cons]
  grind

theorem fraction?_over : fraction?.Over IsFieldChar := by
  intro s n rest h
  simp only [fraction?] at h
  split at h
  · next r =>
    split at h
    · cases h
    · cases h
      refine ⟨'.' :: r.takeWhile Char.isDigit, by simp, List.forall_mem_cons.mpr ⟨by decide, ?_⟩⟩
      intro c hc
      exact .inr (.inl (List.mem_takeWhile_imp hc))
  · cases h
    exact ⟨[], rfl, by simp⟩

theorem hourMinuteFraction?_over : hourMinuteFraction?.Over IsFieldChar := by
  intro s t rest h
  obtain ⟨hms, milli, tail, hh, hf, -⟩ := hourMinuteFraction?_eq_some_iff.mp h
  obtain ⟨a, rfl, ca⟩ := hourMinuteSecond?_over hh
  obtain ⟨b, rfl, cb⟩ := fraction?_over hf
  exact ⟨a ++ b, by simp, List.forall_mem_append.mpr ⟨ca, cb⟩⟩

theorem byteSize_of_digits? {count n : Nat} {s rest : List Char} (h : digits? count s = some (n, rest)) :
    ∃ taken, s = taken ++ rest ∧ byteSize taken = count := by
  obtain ⟨digits, hs, hl, -⟩ := digits?_eq_some_iff.mp h
  obtain ⟨rfl, hd, -⟩ := spanDigits_eq_iff.mp hs
  exact ⟨digits, rfl, (byteSize_of_isDigit hd).trans hl⟩

theorem byteSize_of_strictDate? {s rest : List Char} {d : Date} (h : strictDate? s = some (d, rest)) :
    ∃ taken, s = taken ++ rest ∧ byteSize taken = 10 := by
  obtain ⟨_, _, _, hy, -, hm, hd⟩ := strictDate?_eq_some_iff.mp h
  obtain ⟨y, rfl, sy⟩ := byteSize_of_digits? hy
  obtain ⟨m, rfl, sm⟩ := byteSize_of_digits? hm
  obtain ⟨d, rfl, sd⟩ := byteSize_of_digits? hd
  have hyphen : '-'.utf8Size = 1 := rfl
  exact ⟨y ++ '-' :: (m ++ '-' :: d), by simp, by simp [sy, sm, sd, hyphen]⟩

theorem trimStart_of_spanDigits {most : Nat} {s digits rest : List Char}
    (h : spanDigits most s = (digits, rest)) (hn : digits ≠ []) : trimStart s = s := by
  obtain ⟨rfl, hd, -, -⟩ := spanDigits_eq_iff.mp h
  exact trimStart_append (fun c hc => isBlank_of_isDigit (hd c hc)) hn rest

theorem upTo?_of_digits? {count n : Nat} {s rest : List Char} (hc : 0 < count)
    (h : digits? count s = some (n, rest)) : upTo? count (trimStart s) = some (n, rest) := by
  obtain ⟨digits, hs, hl, hv⟩ := digits?_eq_some_iff.mp h
  have hn : digits ≠ [] := List.ne_nil_of_length_pos (hl ▸ hc)
  rw [trimStart_of_spanDigits hs hn]
  exact upTo?_eq_some_iff.mpr ⟨digits, hs, hn, hv⟩

theorem number?_of_digits? {n : Nat} {s rest : List Char} (h : digits? 2 s = some (n, rest)) :
    number? s = some (n, rest) := upTo?_of_digits? (by decide) h

theorem year?_of_digits? {n : Nat} {s rest : List Char} (h : digits? 4 s = some (n, rest)) :
    year? s = some ((n : Int), rest) :=
  year?_eq_some_iff.mpr (.inr (.inr ⟨n, upTo?_of_digits? (by decide) h, rfl⟩))

theorem date?_of_strictDate? {s rest : List Char} {d : Date} (h : strictDate? s = some (d, rest)) :
    date? s = some (d, rest) := by
  obtain ⟨year, month, day, hy, number, hm, hd⟩ := strictDate?_eq_some_iff.mp h
  refine date?_eq_some_iff.mpr ⟨month, day, ?_, number?_of_digits? hm, number?_of_digits? hd⟩
  rw [number]
  exact year?_of_digits? hy

theorem hourMinuteFraction?_of_strictTime? {s rest : List Char} {t : TimeOfDay}
    (h : strictTime? s = some (t, rest)) : hourMinuteFraction? s = some (t, rest) := by
  simp only [strictTime?, Option.bind_eq_bind, Option.bind_eq_some_iff, Prod.exists, skip?_eq_some_iff,
    Option.pure_def, Option.some.injEq, Prod.mk.injEq] at h
  obtain ⟨_, _, hh, a, rfl, _, _, hm, b, rfl, _, _, hs, _, _, hf, rfl, rfl⟩ := h
  have h₁ := hourMinute?_eq_some_iff.mpr
    ⟨_, _, a, number?_of_digits? hh, number?_of_digits? hm, rfl⟩
  have h₂ := hourMinuteSecond?_eq_some_iff.mpr ⟨_, _, b, h₁, number?_of_digits? hs, rfl⟩
  exact hourMinuteFraction?_eq_some_iff.mpr ⟨_, _, _, h₂, hf, rfl⟩

end TimeWindow.Endpoint
