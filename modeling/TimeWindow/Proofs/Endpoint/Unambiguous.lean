import TimeWindow.Proofs.Endpoint.Loose

namespace TimeWindow.Endpoint

open Calendar Text

def Unambiguous {α : Type} (written : List Char → α → Prop) (ahead : List Char → Prop) : Prop :=
  ∀ ⦃s t a b y z⦄, written s a → written t b → ahead y → ahead z → s ++ y = t ++ z → s = t ∧ a = b ∧ y = z

variable {s t y z : List Char}

theorem digits_unambiguous (hs : ∀ c ∈ s, c.isDigit) (ht : ∀ c ∈ t, c.isDigit) (hy : NoDigitAhead y)
    (hz : NoDigitAhead z) (h : s ++ y = t ++ z) : s = t ∧ y = z := by
  have taken := congrArg (List.takeWhile Char.isDigit) h
  rw [takeWhile_append_of_noDigitAhead hs hy, takeWhile_append_of_noDigitAhead ht hz] at taken
  subst taken
  exact ⟨rfl, List.append_cancel_left h⟩

theorem blanks_unambiguous (hs : ∀ c ∈ s, isBlank c) (ht : ∀ c ∈ t, isBlank c) (hy : ∀ c ∈ y.head?, isBlank c = false)
    (hz : ∀ c ∈ z.head?, isBlank c = false) (h : s ++ y = t ++ z) : s = t ∧ y = z := by
  have left := congrArg trimStart h
  rw [trimStart, trimStart, List.dropWhile_append_of_pos hs, List.dropWhile_append_of_pos ht] at left
  have rest : y = z := (trimStart_eq_self_iff.mpr hy).symm.trans (left.trans (trimStart_eq_self_iff.mpr hz))
  subst rest
  exact ⟨List.append_cancel_right h, rfl⟩

theorem head_not_blank_of_digits (hn : s ≠ []) (hd : ∀ c ∈ s, c.isDigit) (z : List Char) :
    ∀ c ∈ (s ++ z).head?, isBlank c = false := by
  intro c hc
  rw [List.head?_append_of_ne_nil _ hn] at hc
  exact isBlank_of_isDigit (hd c (List.mem_of_mem_head? hc))

theorem writtenNumber_unambiguous : Unambiguous WrittenNumber NoDigitAhead := by
  rintro _ _ _ _ y z ⟨blanks, digits, rfl, hb, hn, -, hd, rfl⟩ ⟨blanks', digits', rfl, hb', hn', -, hd', rfl⟩ hy hz h
  rw [List.append_assoc, List.append_assoc] at h
  obtain ⟨rfl, behind⟩ :=
    blanks_unambiguous hb hb' (head_not_blank_of_digits hn hd y) (head_not_blank_of_digits hn' hd' z) h
  obtain ⟨rfl, rfl⟩ := digits_unambiguous hd hd' hy hz behind
  exact ⟨rfl, rfl, rfl⟩

theorem ne_cons_of_digits {c : Char} (hc : c.isDigit = false) (hn : s ≠ []) (hd : ∀ c ∈ s, c.isDigit) :
    s ++ y ≠ c :: t := by
  cases s with
  | nil => exact absurd rfl hn
  | cons d s =>
    rintro ⟨⟩
    rw [hd c List.mem_cons_self] at hc
    cases hc

theorem writtenYear_unambiguous : Unambiguous WrittenYear NoDigitAhead := by
  intro s t a b y z hs ht hy hz h
  cases hs with
  | unsigned hn hd =>
    cases ht with
    | unsigned hn' hd' =>
      obtain ⟨rfl, rfl⟩ := digits_unambiguous hd hd' hy hz h
      exact ⟨rfl, rfl, rfl⟩
    | positive => exact absurd h (ne_cons_of_digits rfl hn hd)
    | negative => exact absurd h (ne_cons_of_digits rfl hn hd)
  | positive hn hd =>
    cases ht with
    | unsigned hn' hd' => exact absurd h.symm (ne_cons_of_digits rfl hn' hd')
    | positive hn' hd' =>
      obtain ⟨rfl, rfl⟩ := digits_unambiguous hd hd' hy hz (List.cons.inj h).2
      exact ⟨rfl, rfl, rfl⟩
    | negative => exact absurd (List.cons.inj h).1 (by decide)
  | negative hn hd =>
    cases ht with
    | unsigned hn' hd' => exact absurd h.symm (ne_cons_of_digits rfl hn' hd')
    | positive => exact absurd (List.cons.inj h).1 (by decide)
    | negative hn' hd' =>
      obtain ⟨rfl, rfl⟩ := digits_unambiguous hd hd' hy hz (List.cons.inj h).2
      exact ⟨rfl, rfl, rfl⟩

theorem WrittenYear.head_not_blank {year : Int} (h : WrittenYear s year) (z : List Char) :
    ∀ c ∈ (s ++ z).head?, isBlank c = false := by
  cases h with
  | unsigned hn hd => exact head_not_blank_of_digits hn hd z
  | positive => rintro _ ⟨⟩; rfl
  | negative => rintro _ ⟨⟩; rfl

theorem writtenDate_unambiguous : Unambiguous WrittenDate NoDigitAhead := by
  rintro _ _ ⟨_, _, _⟩ ⟨_, _, _⟩ y z ⟨blanks, year, month, day, rfl, hb, wy, wm, wd⟩
    ⟨blanks', year', month', day', rfl, hb', wy', wm', wd'⟩ hy hz h
  simp only [List.append_assoc, List.cons_append] at h
  have hyphen : ∀ t, NoDigitAhead ('-' :: t) := noDigitAhead_cons rfl
  obtain ⟨rfl, h₁⟩ := blanks_unambiguous hb hb' (wy.head_not_blank _) (wy'.head_not_blank _) h
  obtain ⟨rfl, rfl, h₂⟩ := writtenYear_unambiguous wy wy' (hyphen _) (hyphen _) h₁
  obtain ⟨rfl, rfl, h₃⟩ := writtenNumber_unambiguous wm wm' (hyphen _) (hyphen _) (List.cons.inj h₂).2
  obtain ⟨rfl, rfl, rfl⟩ := writtenNumber_unambiguous wd wd' hy hz (List.cons.inj h₃).2
  exact ⟨rfl, rfl, rfl⟩

def EndsTime (z : List Char) : Prop := ∀ c ∈ z.head?, c.isDigit = false ∧ c ≠ ':' ∧ c ≠ '.'

theorem EndsTime.noDigitAhead (h : EndsTime z) : NoDigitAhead z := fun c hc => (h c hc).1

theorem endsTime_nil : EndsTime [] := by
  rintro _ ⟨⟩

theorem not_endsTime_colon : ¬ EndsTime (':' :: z) := fun h => (h ':' rfl).2.1 rfl

theorem not_endsTime_point : ¬ EndsTime ('.' :: z) := fun h => (h '.' rfl).2.2 rfl

theorem WrittenZone.endsTime {east : Int} (h : WrittenZone z east) : EndsTime z := by
  obtain ⟨c, rest, rfl, hc⟩ := h.exists_cons
  have marks : ∀ c ∈ ['Z', 'z', '+', '-', '\u2212'], c.isDigit = false ∧ c ≠ ':' ∧ c ≠ '.' :=
    List.all_iff_forall_prop.mp (by decide)
  rintro _ ⟨⟩
  exact marks c hc

theorem writtenPoint_unambiguous : Unambiguous WrittenPoint EndsTime := by
  intro s t a b y z hs ht hy hz h
  cases hs with
  | absent =>
    cases ht with
    | absent => exact ⟨rfl, rfl, h⟩
    | present =>
      obtain rfl : y = _ := h
      exact absurd hy not_endsTime_point
  | present hn hd =>
    cases ht with
    | absent =>
      obtain rfl : _ = z := h
      exact absurd hz not_endsTime_point
    | present hn' hd' =>
      obtain ⟨rfl, rfl⟩ := digits_unambiguous hd hd' hy.noDigitAhead hz.noDigitAhead (List.cons.inj h).2
      exact ⟨rfl, rfl, rfl⟩

theorem WrittenPoint.noDigitAhead {digits : List Char} (h : WrittenPoint s digits) (hz : EndsTime z) :
    NoDigitAhead (s ++ z) := by
  cases h with
  | absent => exact hz.noDigitAhead
  | present => exact noDigitAhead_cons rfl _

theorem writtenSeconds_unambiguous {second second' : Nat} {digits digits' : List Char}
    (hs : WrittenSeconds s second digits) (ht : WrittenSeconds t second' digits') (hy : EndsTime y) (hz : EndsTime z)
    (h : s ++ y = t ++ z) : s = t ∧ second = second' ∧ digits = digits' ∧ y = z := by
  cases hs with
  | absent =>
    cases ht with
    | absent => exact ⟨rfl, rfl, rfl, h⟩
    | present =>
      obtain rfl : y = _ := h
      exact absurd hy not_endsTime_colon
  | present ws wq =>
    cases ht with
    | absent =>
      obtain rfl : _ = z := h
      exact absurd hz not_endsTime_colon
    | present ws' wq' =>
      rw [List.cons_append, List.cons_append, List.append_assoc, List.append_assoc] at h
      obtain ⟨rfl, rfl, point⟩ :=
        writtenNumber_unambiguous ws ws' (wq.noDigitAhead hy) (wq'.noDigitAhead hz) (List.cons.inj h).2
      obtain ⟨rfl, rfl, rfl⟩ := writtenPoint_unambiguous wq wq' hy hz point
      exact ⟨rfl, rfl, rfl, rfl⟩

theorem WrittenSeconds.noDigitAhead {second : Nat} {digits : List Char} (h : WrittenSeconds s second digits)
    (hz : EndsTime z) : NoDigitAhead (s ++ z) := by
  cases h with
  | absent => exact hz.noDigitAhead
  | present => exact noDigitAhead_cons rfl _

theorem writtenTime_unambiguous : Unambiguous WrittenTime EndsTime := by
  rintro _ _ ⟨_, _, _, _⟩ ⟨_, _, _, _⟩ y z ⟨hour, minute, seconds, rfl, wh, wm, ws⟩
    ⟨hour', minute', seconds', rfl, wh', wm', ws'⟩ hy hz h
  simp only [List.append_assoc, List.cons_append] at h
  have colon : ∀ t, NoDigitAhead (':' :: t) := noDigitAhead_cons rfl
  obtain ⟨rfl, rfl, h₁⟩ := writtenNumber_unambiguous wh wh' (colon _) (colon _) h
  obtain ⟨rfl, rfl, h₂⟩ :=
    writtenNumber_unambiguous wm wm' (ws.noDigitAhead hy) (ws'.noDigitAhead hz) (List.cons.inj h₁).2
  obtain ⟨rfl, rfl, rfl, rfl⟩ := writtenSeconds_unambiguous ws ws' hy hz h₂
  exact ⟨rfl, rfl, rfl⟩

def WrittenPlace (z : List Char) (east : Int) : Prop := z = [] ∧ east = 0 ∨ WrittenZone z east

theorem WrittenPlace.endsTime {east : Int} (h : WrittenPlace z east) : EndsTime z := by
  obtain ⟨rfl, -⟩ | zone := h
  · exact endsTime_nil
  · exact zone.endsTime

theorem WrittenPlace.unique {a b : Int} (ha : WrittenPlace z a) (hb : WrittenPlace z b) : a = b := by
  obtain ⟨rfl, rfl⟩ | wa := ha <;> obtain ⟨hz, rfl⟩ | wb := hb
  · rfl
  · exact absurd rfl wb.ne_nil
  · exact absurd hz wa.ne_nil
  · cases wa.zone?_eq.symm.trans wb.zone?_eq
    rfl

variable {d e : Date} {u v : FineTime} {a b : Int}

theorem WrittenInstant.exists_parts (h : WrittenInstant s d u a) :
    ∃ date c time place, s = date ++ c :: (time ++ place) ∧ c.isDigit = false ∧ WrittenDate date d ∧
      WrittenTime time u ∧ WrittenPlace place a := by
  cases h with
  | utc hc wd wt =>
    have marks : ∀ c ∈ ['T', ':'], c.isDigit = false := List.all_iff_forall_prop.mp (by decide)
    exact ⟨_, _, _, [], by rw [List.append_nil], marks _ hc, wd, wt, .inl ⟨rfl, rfl⟩⟩
  | zoned hc wd wt wz =>
    have marks : ∀ c ∈ ['T', 't', ' '], c.isDigit = false := List.all_iff_forall_prop.mp (by decide)
    exact ⟨_, _, _, _, rfl, marks _ hc, wd, wt, .inr wz⟩

theorem WrittenInstant.unique (hd : WrittenInstant s d u a) (he : WrittenInstant s e v b) : d = e ∧ u = v ∧ a = b := by
  obtain ⟨date, c, time, place, rfl, hc, wd, wt, wp⟩ := hd.exists_parts
  obtain ⟨date', c', time', place', cut, hc', wd', wt', wp'⟩ := he.exists_parts
  obtain ⟨rfl, rfl, h₁⟩ := writtenDate_unambiguous wd wd' (noDigitAhead_cons hc _) (noDigitAhead_cons hc' _) cut
  obtain ⟨rfl, rfl, rfl⟩ := writtenTime_unambiguous wt wt' wp.endsTime wp'.endsTime (List.cons.inj h₁).2
  exact ⟨rfl, rfl, wp.unique wp'⟩

end TimeWindow.Endpoint
