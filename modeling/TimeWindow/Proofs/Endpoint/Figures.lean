import Mathlib.Data.Bool.AllAny
import TimeWindow.Proofs.Endpoint.ClockUse

namespace TimeWindow.Endpoint

open Calendar Text

def IsInstantChar (c : Char) : Prop := c.isDigit ∨ c ∈ ['-', ':', '.', 'Z', 'z', '+', '\u2212']

instance (c : Char) : Decidable (IsInstantChar c) := inferInstanceAs (Decidable (_ ∨ _))

theorem IsInstantChar.isBlank_eq_false {c : Char} (h : IsInstantChar c) : isBlank c = false := by
  have marks : ∀ c ∈ ['-', ':', '.', 'Z', 'z', '+', '\u2212'], isBlank c = false :=
    List.all_iff_forall_prop.mp (by decide)
  exact h.elim isBlank_of_isDigit (marks c)

structure Figures (width : Nat) where
  text : List Char
  length_eq : text.length = width
  all_isDigit : text.all Char.isDigit

namespace Figures

variable {width : Nat}

def number (f : Figures width) : Nat := value f.text

theorem isDigit (f : Figures width) : ∀ c ∈ f.text, c.isDigit := List.all_eq_true.mp f.all_isDigit

theorem number_lt (f : Figures width) : f.number < 10 ^ width := by
  have h := value_lt f.isDigit
  rwa [f.length_eq] at h

theorem isInstantChar (f : Figures width) : ∀ c ∈ f.text, IsInstantChar c := fun c hc => .inl (f.isDigit c hc)

theorem text_ne_nil (f : Figures (width + 1)) : f.text ≠ [] :=
  List.ne_nil_of_length_pos (f.length_eq.symm ▸ Nat.succ_pos width)

@[simp] theorem byteSize_text (f : Figures width) : byteSize f.text = width := by
  rw [byteSize_of_isDigit f.isDigit, f.length_eq]

theorem digits?_append (f : Figures width) (rest : List Char) :
    digits? width (f.text ++ rest) = some (f.number, rest) := by
  have h := Endpoint.digits?_append f.isDigit rest
  rwa [f.length_eq] at h

theorem number?_append (f : Figures 2) (rest : List Char) : number? (f.text ++ rest) = some (f.number, rest) :=
  number?_of_digits? (f.digits?_append rest)

end Figures

structure DateFigures where
  year : Figures 4
  month : Figures 2
  day : Figures 2

namespace DateFigures

def text (d : DateFigures) : List Char := d.year.text ++ '-' :: (d.month.text ++ '-' :: d.day.text)

def date (d : DateFigures) : Date := ⟨d.year.number, d.month.number, d.day.number⟩

theorem supported_date (d : DateFigures) : d.date.Supported := by
  have year := d.year.number_lt
  simp only [Date.Supported, date]
  omega

@[simp] theorem byteSize_text (d : DateFigures) : byteSize d.text = 10 := by
  have hyphen : '-'.utf8Size = 1 := rfl
  simp [text, hyphen]

theorem text_ne_nil (d : DateFigures) : d.text ≠ [] := List.append_ne_nil_of_left_ne_nil d.year.text_ne_nil _

theorem isInstantChar (d : DateFigures) : ∀ c ∈ d.text, IsInstantChar c := by
  have hyphen : IsInstantChar '-' := by decide
  simp only [text, List.forall_mem_append, List.forall_mem_cons]
  exact ⟨d.year.isInstantChar, hyphen, d.month.isInstantChar, hyphen, d.day.isInstantChar⟩

theorem strictDate?_append (d : DateFigures) (rest : List Char) :
    strictDate? (d.text ++ rest) = some (d.date, rest) := by
  simp [strictDate?, text, Figures.digits?_append, skip?, date]

theorem date?_append (d : DateFigures) (rest : List Char) : date? (d.text ++ rest) = some (d.date, rest) :=
  date?_of_strictDate? (d.strictDate?_append rest)

end DateFigures

structure TimeFigures where
  hour : Figures 2
  minute : Figures 2
  second : Option (Figures 2)

namespace TimeFigures

def secondText (t : TimeFigures) : List Char :=
  match t.second with
  | none => []
  | some s => ':' :: s.text

def text (t : TimeFigures) : List Char := t.hour.text ++ ':' :: (t.minute.text ++ t.secondText)

def secondNumber (t : TimeFigures) : Nat := t.second.elim 0 Figures.number

def time (t : TimeFigures) : TimeOfDay := ⟨t.hour.number, t.minute.number, t.secondNumber, 0⟩

theorem no_seconds (t : TimeFigures) (h : t.second = none) : t.secondText = [] ∧ t.secondNumber = 0 := by
  simp [secondText, secondNumber, h]

theorem colon_mem_text (t : TimeFigures) : ':' ∈ t.text := List.mem_append_right _ List.mem_cons_self

theorem text_ne_nil (t : TimeFigures) : t.text ≠ [] := List.ne_nil_of_mem t.colon_mem_text

theorem byteSize_text (t : TimeFigures) : byteSize t.text = if t.second.isSome then 8 else 5 := by
  have colon : ':'.utf8Size = 1 := rfl
  unfold text secondText
  cases t.second with
  | none => simp [colon]
  | some s => simp [colon]

theorem isInstantChar (t : TimeFigures) : ∀ c ∈ t.text, IsInstantChar c := by
  have colon : IsInstantChar ':' := by decide
  have seconds : ∀ c ∈ t.secondText, IsInstantChar c := by
    unfold secondText
    cases t.second with
    | none => simp
    | some s => exact List.forall_mem_cons.mpr ⟨colon, s.isInstantChar⟩
  simp only [text, List.forall_mem_append, List.forall_mem_cons]
  exact ⟨t.hour.isInstantChar, colon, t.minute.isInstantChar, seconds⟩

theorem hourMinute?_append (t : TimeFigures) (rest : List Char) :
    hourMinute? (t.text ++ rest) = some (⟨t.hour.number, t.minute.number, 0, 0⟩, t.secondText ++ rest) := by
  simp [hourMinute?, text, Figures.number?_append, skip?]

theorem hourMinute?_text (t : TimeFigures) :
    hourMinute? t.text = some (⟨t.hour.number, t.minute.number, 0, 0⟩, t.secondText) := by
  simpa using t.hourMinute?_append []

variable {t : TimeFigures} {s : Figures 2}

theorem hourMinuteSecond?_append (h : t.second = some s) (rest : List Char) :
    hourMinuteSecond? (t.text ++ rest) = some (t.time, rest) := by
  have shown : t.secondText = ':' :: s.text := by simp [secondText, h]
  simp [hourMinuteSecond?, hourMinute?_append, shown, skip?, Figures.number?_append, time, secondNumber, h]

theorem read_whole (t : TimeFigures) :
    byteSize t.text = 5 ∧ hourMinute? t.text = some (t.time, []) ∨
      byteSize t.text = 8 ∧ hourMinuteSecond? t.text = some (t.time, []) := by
  cases hs : t.second with
  | none =>
    obtain ⟨text, number⟩ := t.no_seconds hs
    exact .inl ⟨by simp [byteSize_text, hs], by rw [hourMinute?_text, text, time, number]⟩
  | some s => exact .inr ⟨by simp [byteSize_text, hs], by simpa using hourMinuteSecond?_append hs []⟩

theorem strictTime?_append (h : t.second = some s) {milli : Nat} {rest zone : List Char}
    (hf : fraction? rest = some (milli, zone)) : strictTime? (t.text ++ rest) = some ({ t.time with milli }, zone) := by
  have shown : t.secondText = ':' :: s.text := by simp [secondText, h]
  simp [strictTime?, text, shown, skip?, Figures.digits?_append, hf, time, secondNumber, h]

end TimeFigures

end TimeWindow.Endpoint
