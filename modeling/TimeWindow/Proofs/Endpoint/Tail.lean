import TimeWindow.Proofs.Endpoint.DateTime

namespace TimeWindow.Endpoint

open Calendar Text

def Figures.thousandths {width : Nat} (f : Figures width) : Nat := value ((f.text.take 3).rightpad 3 '0')

inductive WrittenFraction : List Char → Nat → Prop
  | absent : WrittenFraction [] 0
  | digits {width : Nat} (f : Figures (width + 1)) : WrittenFraction ('.' :: f.text) f.thousandths

namespace Figures

variable {width : Nat}

theorem fractionMillis_eq (f : Figures (width + 1)) : fractionMillis f.text = f.thousandths := by
  obtain ⟨text, length, -⟩ := f
  unfold fractionMillis thousandths
  match text with
  | [a] => rfl
  | [a, b] => rfl
  | a :: b :: c :: rest => simp [List.rightpad]

theorem thousandths_le (f : Figures width) : f.thousandths ≤ 999 := by
  have digits : ∀ c ∈ (f.text.take 3).rightpad 3 '0', c.isDigit := by
    intro c hc
    rw [List.rightpad, List.mem_append, List.mem_replicate] at hc
    obtain h | ⟨-, rfl⟩ := hc
    · exact f.isDigit c (List.mem_of_mem_take h)
    · decide
  have length : ((f.text.take 3).rightpad 3 '0').length = 3 := by
    rw [List.rightpad, List.length_append, List.length_replicate, List.length_take]
    omega
  have h := value_lt digits
  rw [length] at h
  exact Nat.le_of_lt_succ h

end Figures

variable {q z tail : List Char} {k milli : Nat} {east : Int}

theorem WrittenFraction.le (h : WrittenFraction q k) : k ≤ 999 := by
  cases h with
  | absent => exact Nat.zero_le _
  | digits f => exact f.thousandths_le

theorem WrittenFraction.fraction?_append (h : WrittenFraction q k) (hd : NoDigitAhead z) (hp : z.head? ≠ some '.') :
    fraction? (q ++ z) = some (k, z) := by
  cases h with
  | absent =>
    cases z with
    | nil => rfl
    | cons c z =>
      have point : c ≠ '.' := by simpa using hp
      simp [fraction?, point]
  | digits f =>
    have taken := takeWhile_append_of_noDigitAhead f.isDigit hd
    have left := dropWhile_append_of_noDigitAhead f.isDigit hd
    simp [fraction?, taken, left, f.text_ne_nil, f.fractionMillis_eq]

inductive WrittenZone : List Char → Int → Prop
  | utc {c : Char} : c ∈ ['Z', 'z'] → WrittenZone [c] 0
  | ahead (h m : Figures 2) : h.number ≤ 23 → m.number ≤ 59 →
      WrittenZone ('+' :: (h.text ++ ':' :: m.text)) (60 * h.number + m.number)
  | behind {c : Char} (h m : Figures 2) : c ∈ ['-', '\u2212'] → h.number ≤ 23 → m.number ≤ 59 →
      WrittenZone (c :: (h.text ++ ':' :: m.text)) (-(60 * h.number + m.number))

theorem ahead?_figures {h m : Figures 2} (hh : h.number ≤ 23) (hm : m.number ≤ 59) :
    ahead? (h.text ++ ':' :: m.text) = some ((60 * h.number + m.number : Int), []) := by
  have minutes : digits? 2 m.text = some (m.number, []) := by simpa using m.digits?_append []
  simp [ahead?, Figures.digits?_append, skip?, minutes, hh, hm, Int.mul_comm]

namespace WrittenZone

theorem zone?_eq (h : WrittenZone z east) : zone? z = some (east, []) := by
  cases h with
  | utc hc =>
    simp only [List.mem_cons, List.not_mem_nil, or_false] at hc
    obtain rfl | rfl := hc <;> rfl
  | ahead h m hh hm => exact ahead?_figures hh hm
  | behind h m hc hh hm =>
    simp only [List.mem_cons, List.not_mem_nil, or_false] at hc
    obtain rfl | rfl := hc <;> simp [zone?, ahead?_figures hh hm]

theorem bounds (h : WrittenZone z east) : -1440 < east ∧ east < 1440 := by
  cases h <;> omega

theorem exists_cons (h : WrittenZone z east) : ∃ c rest, z = c :: rest ∧ c ∈ ['Z', 'z', '+', '-', '\u2212'] := by
  cases h with
  | utc hc => exact ⟨_, _, rfl, by grind⟩
  | ahead h m hh hm => exact ⟨_, _, rfl, by decide⟩
  | behind h m hc hh hm => exact ⟨_, _, rfl, by grind⟩

theorem ne_nil (h : WrittenZone z east) : z ≠ [] := by
  rintro rfl
  cases h

theorem ends_fraction (h : WrittenZone z east) : NoDigitAhead z ∧ z.head? ≠ some '.' := by
  obtain ⟨c, rest, rfl, hc⟩ := h.exists_cons
  have marks : ∀ c ∈ ['Z', 'z', '+', '-', '\u2212'], c.isDigit = false ∧ c ≠ '.' :=
    List.all_iff_forall_prop.mp (by decide)
  exact ⟨noDigitAhead_cons (marks c hc).1 rest, fun h => (marks c hc).2 (Option.some.inj h)⟩

end WrittenZone

theorem WrittenFraction.isInstantChar (h : WrittenFraction q k) : ∀ c ∈ q, IsInstantChar c := by
  cases h with
  | absent => simp
  | digits f => exact List.forall_mem_cons.mpr ⟨by decide, f.isInstantChar⟩

theorem WrittenZone.isInstantChar (h : WrittenZone z east) : ∀ c ∈ z, IsInstantChar c := by
  have letters : ∀ c ∈ ['Z', 'z'], IsInstantChar c := List.all_iff_forall_prop.mp (by decide)
  have hyphens : ∀ c ∈ ['-', '\u2212'], IsInstantChar c := List.all_iff_forall_prop.mp (by decide)
  have colon : IsInstantChar ':' := by decide
  cases h with
  | utc hc => exact List.forall_mem_singleton.mpr (letters _ hc)
  | ahead h m =>
    simp only [List.forall_mem_cons, List.forall_mem_append]
    exact ⟨by decide, h.isInstantChar, colon, m.isInstantChar⟩
  | behind h m hc =>
    simp only [List.forall_mem_cons, List.forall_mem_append]
    exact ⟨hyphens _ hc, h.isInstantChar, colon, m.isInstantChar⟩

def instantText (d : DateFigures) (c : Char) (t : TimeFigures) (tail : List Char) : List Char :=
  d.text ++ c :: (t.text ++ tail)

section

variable {d : DateFigures} {t : TimeFigures} {s : Figures 2} {c : Char}

theorem trim_instantText (h : ∀ c ∈ tail, IsInstantChar c) :
    trim (instantText d c t tail) = instantText d c t tail := by
  have chars : ∀ c ∈ t.text ++ tail, IsInstantChar c := List.forall_mem_append.mpr ⟨t.isInstantChar, h⟩
  exact trim_date_append d c chars (List.append_ne_nil_of_left_ne_nil t.text_ne_nil tail)

theorem letter_mem_instantText_iff (h : ∀ c ∈ tail, IsInstantChar c) : 'T' ∈ instantText d c t tail ↔ c = 'T' := by
  have date : 'T' ∉ d.text := fun hd => absurd (d.isInstantChar _ hd) (by decide)
  have time : 'T' ∉ t.text := fun ht => absurd (t.isInstantChar _ ht) (by decide)
  have after : 'T' ∉ tail := fun ha => absurd (h _ ha) (by decide)
  simp [instantText, date, time, after, eq_comm]

theorem dateTime?_instantText (hc : c ≠ ':') : dateTime? (instantText d c t tail) = none := by
  have cut : cut? 10 (instantText d c t tail) = some (d.text, c :: (t.text ++ tail)) :=
    cut?_eq_some_iff.mpr ⟨rfl, d.byteSize_text⟩
  simp [dateTime?, cut, skip?, hc]

theorem ofText?_instantText (d : DateFigures) (t : TimeFigures) (tail : List Char) (hc : c ≠ ':') :
    ofText? (instantText d c t tail) = (iso? (instantText d c t tail)).map ofMoment := by
  have colon : ':' ∈ instantText d c t tail :=
    List.mem_append_right _ (List.mem_cons_of_mem _ (List.mem_append_left _ t.colon_mem_text))
  rw [ofText?_of_colon_mem colon, dateTime?_instantText hc]
  cases iso? (instantText d c t tail) <;> rfl

theorem toMinute?_instantText (ht : t.second = some s) (tail : List Char) :
    Iso.toMinute? (instantText d 'T' t tail) = none :=
  Iso.local?_eq_none (d.date?_append _) (t.hourMinute?_append tail) (by simp [TimeFigures.secondText, ht])

theorem zoned?_instantText (ht : t.second = some s) (hc : c ∈ ['T', 't', ' ']) (hq : WrittenFraction q k)
    (hz : WrittenZone z east) :
    Iso.zoned? (instantText d c t (q ++ z)) = moment? d.date { t.time with milli := k } east := by
  obtain ⟨digits, point⟩ := hz.ends_fraction
  have time := TimeFigures.strictTime?_append ht (hq.fraction?_append digits point)
  exact Iso.zoned?_of_zone (d.strictDate?_append _) hc time hz.zone?_eq

theorem iso?_zoned (ht : t.second = some s) (hq : WrittenFraction q k) (hz : WrittenZone z east) :
    iso? (instantText d 'T' t (q ++ z)) = moment? d.date { t.time with milli := k } east := by
  obtain ⟨digits, point⟩ := hz.ends_fraction
  have letter : 'T' ∈ instantText d 'T' t (q ++ z) := List.mem_append_right _ List.mem_cons_self
  have zoned := zoned?_instantText (d := d) ht List.mem_cons_self hq hz
  have date := d.date?_append ('T' :: (t.text ++ (q ++ z)))
  have toSecond := TimeFigures.hourMinuteSecond?_append ht (q ++ z)
  have second : Iso.toSecond? (instantText d 'T' t (q ++ z)) = none :=
    Iso.local?_eq_none date toSecond (List.append_ne_nil_of_right_ne_nil q hz.ne_nil)
  have fraction : Iso.toFraction? (instantText d 'T' t (q ++ z)) = none :=
    Iso.local?_eq_none date
      (hourMinuteFraction?_eq_some_iff.mpr ⟨_, _, _, toSecond, hq.fraction?_append digits point, rfl⟩) hz.ne_nil
  rw [iso?, if_pos letter, zoned, second, fraction, toMinute?_instantText ht]
  cases moment? d.date { t.time with milli := k } east <;> rfl

theorem iso?_local (ht : t.second = some s) (hq : WrittenFraction q k) :
    iso? (instantText d 'T' t q) = moment? d.date { t.time with milli := k } 0 := by
  have letter : 'T' ∈ instantText d 'T' t q := List.mem_append_right _ List.mem_cons_self
  have noDigit : NoDigitAhead [] := by
    rintro _ ⟨⟩
  have whole : fraction? q = some (k, []) := by simpa using hq.fraction?_append noDigit (by decide)
  have date := d.date?_append ('T' :: (t.text ++ q))
  have toSecond := TimeFigures.hourMinuteSecond?_append ht q
  have zoned : Iso.zoned? (instantText d 'T' t q) = none :=
    Iso.zoned?_eq_none (d.strictDate?_append _) (TimeFigures.strictTime?_append ht whole)
  have fraction : Iso.toFraction? (instantText d 'T' t q) = moment? d.date { t.time with milli := k } 0 :=
    Iso.local?_of_whole date (hourMinuteFraction?_eq_some_iff.mpr ⟨_, _, _, toSecond, whole, rfl⟩)
  rw [iso?, if_pos letter, zoned, toMinute?_instantText ht]
  cases hs : Iso.toSecond? (instantText d 'T' t q) with
  | none =>
    rw [fraction]
    cases moment? d.date { t.time with milli := k } 0 <;> rfl
  | some m =>
    rw [← fraction, Iso.toFraction?_of_toSecond? hs]
    rfl

end

inductive WrittenTail : List Char → Nat → Int → Prop
  | inUTC {q : List Char} {k : Nat} : WrittenFraction q k → WrittenTail q k 0
  | zoned {q z : List Char} {k : Nat} {east : Int} :
      WrittenFraction q k → WrittenZone z east → WrittenTail (q ++ z) k east

namespace WrittenTail

variable {d : DateFigures} {t : TimeFigures} {c : Char}

theorem bounds (h : WrittenTail tail k east) : k ≤ 999 ∧ -1440 < east ∧ east < 1440 := by
  cases h with
  | inUTC hq => exact ⟨hq.le, by decide⟩
  | zoned hq hz => exact ⟨hq.le, hz.bounds⟩

theorem isInstantChar (h : WrittenTail tail k east) : ∀ c ∈ tail, IsInstantChar c := by
  cases h with
  | inUTC hq => exact hq.isInstantChar
  | zoned hq hz => exact List.forall_mem_append.mpr ⟨hq.isInstantChar, hz.isInstantChar⟩

theorem iso?_eq (h : WrittenTail tail k east) (ht : t.second.isSome) :
    iso? (instantText d 'T' t tail) = moment? d.date { t.time with milli := k } east := by
  obtain ⟨s, hs⟩ := Option.isSome_iff_exists.mp ht
  cases h with
  | inUTC hq => exact iso?_local hs hq
  | zoned hq hz => exact iso?_zoned hs hq hz

theorem read_of_civil (h : WrittenTail tail k east) (ht : t.second.isSome) (civil : Civil d t) (clock : Clock) :
    ∃ v, read (String.ofList (instantText d 'T' t tail)) clock = (.ok v, clock) ∧
      v.toInt = (momentOf d t k east).epochMillis := by
  obtain ⟨milli, zone⟩ := h.bounds
  have moment : moment? d.date { t.time with milli := k } east = some (momentOf d t k east) :=
    moment?_of_civil civil milli
  have named := ofText?_instantText d t tail (c := 'T') (by decide)
  rw [h.iso?_eq ht, moment] at named
  exact read_of_moment (trim_instantText h.isInstantChar) named (civil.valid milli) zone clock

theorem read_of_not_civil (h : WrittenTail tail k east) (ht : t.second.isSome) (civil : ¬ Civil d t) (clock : Clock) :
    read (String.ofList (instantText d 'T' t tail)) clock =
      (.error ⟨String.ofList (instantText d 'T' t tail), .unrecognized⟩, clock) := by
  have named := ofText?_instantText d t tail (c := 'T') (by decide)
  rw [h.iso?_eq ht, moment?_of_not_civil civil] at named
  exact read_unrecognized (trim_instantText h.isInstantChar) named clock

theorem read_of_ne_letter (h : WrittenTail tail k east) (hc : c ≠ ':') (letter : c ≠ 'T') (clock : Clock) :
    read (String.ofList (instantText d c t tail)) clock =
      (.error ⟨String.ofList (instantText d c t tail), .unrecognized⟩, clock) := by
  have noLetter : 'T' ∉ instantText d c t tail := fun hT => letter ((letter_mem_instantText_iff h.isInstantChar).mp hT)
  have named := ofText?_instantText d t tail hc
  rw [iso?, if_neg noLetter] at named
  exact read_unrecognized (trim_instantText h.isInstantChar) named clock

end WrittenTail

theorem epochMillis_momentOf (d : DateFigures) (t : TimeFigures) (k : Nat) (east : Int) :
    (momentOf d t k east).epochMillis = (momentOf d t 0 0).epochMillis + k - east * 60000 := by
  simp only [Moment.epochMillis, momentOf, TimeFigures.time, TimeOfDay.millis]
  omega

/-- A fraction and a zone move an instant by what they say, and are taken exactly where the instant is.  With a small
letter or a blank between date and time nothing is taken, though RFC 3339 takes it if there is a zone. -/
theorem tails_move_instants (d : DateFigures) (t : TimeFigures) (ht : t.second.isSome) (clock : Clock) :
    (∀ tail k east, WrittenTail tail k east →
      (∀ v, (read (String.ofList (instantText d 'T' t [])) clock).1 = .ok v →
        ∃ w, read (String.ofList (instantText d 'T' t tail)) clock = (.ok w, clock) ∧
          w.toInt = v.toInt + k - east * 60000) ∧
      (∀ e, (read (String.ofList (instantText d 'T' t [])) clock).1 = .error e →
        read (String.ofList (instantText d 'T' t tail)) clock =
          (.error ⟨String.ofList (instantText d 'T' t tail), .unrecognized⟩, clock)) ∧
      ∀ c ∈ ['t', ' '], read (String.ofList (instantText d c t tail)) clock =
        (.error ⟨String.ofList (instantText d c t tail), .unrecognized⟩, clock)) ∧
    ∀ q k z east, WrittenFraction q k → WrittenZone z east → ∀ c ∈ ['t', ' '], ∀ v,
      (read (String.ofList (instantText d 'T' t [])) clock).1 = .ok v →
        ∃ m, Iso.zoned? (instantText d c t (q ++ z)) = some m ∧ m.epochMillis = v.toInt + k - east * 60000 := by
  have plain : WrittenTail [] 0 0 := .inUTC .absent
  -- The instant without a tail is taken exactly where there is such a day and such a time.
  have taken : ∀ {v}, (read (String.ofList (instantText d 'T' t [])) clock).1 = .ok v →
      Civil d t ∧ v.toInt = (momentOf d t 0 0).epochMillis := by
    intro v hv
    by_cases civil : Civil d t
    · obtain ⟨w, hw, value⟩ := plain.read_of_civil ht civil clock
      rw [hw] at hv
      cases hv
      exact ⟨civil, value⟩
    · rw [plain.read_of_not_civil ht civil] at hv
      cases hv
  refine ⟨?_, ?_⟩
  · intro tail k east h
    refine ⟨?_, ?_, ?_⟩
    · intro v hv
      obtain ⟨civil, value⟩ := taken hv
      obtain ⟨w, hw, moved⟩ := h.read_of_civil ht civil clock
      exact ⟨w, hw, by rw [moved, value, epochMillis_momentOf]⟩
    · intro e he
      refine h.read_of_not_civil ht (fun civil => ?_) clock
      obtain ⟨w, hw, -⟩ := plain.read_of_civil ht civil clock
      rw [hw] at he
      cases he
    · intro c hc
      have other : ∀ c ∈ ['t', ' '], c ≠ ':' ∧ c ≠ 'T' := List.all_iff_forall_prop.mp (by decide)
      exact h.read_of_ne_letter (other c hc).1 (other c hc).2 clock
  · intro q k z east hq hz c hc v hv
    obtain ⟨s, hs⟩ := Option.isSome_iff_exists.mp ht
    obtain ⟨civil, value⟩ := taken hv
    refine ⟨momentOf d t k east, ?_, by rw [value, epochMillis_momentOf]⟩
    rw [zoned?_instantText hs (List.mem_cons_of_mem _ hc) hq hz]
    exact moment?_of_civil civil hq.le

theorem last_second_of_1969 :
    (∃ w, read "1969-12-31T23:59:60.2509\u221200:30" (.fixed 0) = (.ok w, .fixed 0) ∧ w.toInt = 1800250) ∧
      read "1969-12-31 23:59:60Z" (.fixed 0) = (.error ⟨"1969-12-31 23:59:60Z", .unrecognized⟩, .fixed 0) ∧
      ∃ m, Iso.zoned? "1969-12-31 23:59:60Z".toList = some m ∧ m.epochMillis = 0 := by
  have fraction : WrittenFraction ".2509".toList 250 := .digits (⟨"2509".toList, rfl, rfl⟩ : Figures 4)
  have zone : WrittenZone "\u221200:30".toList (-30) :=
    .behind ⟨"00".toList, rfl, rfl⟩ ⟨"30".toList, rfl, rfl⟩ (by decide) (by decide) (by decide)
  have utc : WrittenZone "Z".toList 0 := .utc (by decide)
  have instant : (read "1969-12-31T23:59:60" (.fixed 0)).1 = .ok 0 := by decide
  have moves := tails_move_instants
    ⟨⟨"1969".toList, rfl, rfl⟩, ⟨"12".toList, rfl, rfl⟩, ⟨"31".toList, rfl, rfl⟩⟩
    ⟨⟨"23".toList, rfl, rfl⟩, ⟨"59".toList, rfl, rfl⟩, some ⟨"60".toList, rfl, rfl⟩⟩ rfl (.fixed 0)
  refine ⟨?_, ?_, ?_⟩
  · exact (moves.1 _ _ _ (.zoned fraction zone)).1 0 instant
  · exact (moves.1 _ _ _ (.zoned .absent utc)).2.2 ' ' (by decide)
  · exact moves.2 _ _ _ _ .absent utc ' ' (by decide) 0 instant

end TimeWindow.Endpoint
