import Mathlib.Data.List.Basic
import TimeWindow.Proofs.Endpoint.DateTime

/-! The colon between a date of ten bytes and a time of day is as good as the letter of ISO 8601.  A lenient date
ends where no digit follows, so it is the same before either of them, and the time of day is what remains. -/

namespace TimeWindow.Endpoint

open Calendar Text

variable {s rest z d t : List Char} {m : Moment} {time : TimeOfDay} {date : Date}

/-- A reader takes the same from a text whatever follows it, as long as that does not begin with a digit. -/
def Reader.Local {α : Type} (read : Reader α) : Prop :=
  ∀ ⦃z⦄, NoDigitAhead z → ∀ s a rest, read (s ++ z) = some (a, rest ++ z) ↔ read s = some (a, rest)

theorem noDigitAhead_append_iff (h : NoDigitAhead z) : NoDigitAhead (rest ++ z) ↔ NoDigitAhead rest := by
  cases rest with
  | nil => simpa [NoDigitAhead] using h
  | cons c rest => rfl

theorem upTo?_local (most : Nat) : (upTo? most).Local := by
  intro z hz s n rest
  simp only [upTo?_eq_some_iff, spanDigits_eq_iff, noDigitAhead_append_iff hz, ← List.append_assoc,
    List.append_cancel_right_eq]

theorem upTo?_of_length_le {most : Nat} (h : s.length ≤ most) : upTo? most s = upTo? s.length s := by
  have digits := (List.takeWhile_prefix (l := s) Char.isDigit).length_le
  simp only [upTo?, spanDigits, List.take_of_length_le digits, List.take_of_length_le (Nat.le_trans digits h)]

theorem length_lt_of_upTo? {most n : Nat} (h : upTo? most s = some (n, rest)) : rest.length < s.length := by
  obtain ⟨digits, span, hn, -⟩ := upTo?_eq_some_iff.mp h
  obtain ⟨rfl, -⟩ := spanDigits_eq_iff.mp span
  rw [List.length_append]
  exact Nat.lt_add_of_pos_left (List.length_pos_iff.mpr hn)

theorem Reader.local_of_trimStart {α : Type} {read : Reader α}
    (shorter : ∀ ⦃s a rest⦄, read s = some (a, rest) → rest.length < (trimStart s).length)
    (behind : ∀ ⦃s c u z⦄, trimStart s = c :: u → trimStart (s ++ z) = c :: (u ++ z) → NoDigitAhead z →
      ∀ a rest, read (s ++ z) = some (a, rest ++ z) ↔ read s = some (a, rest)) : read.Local := by
  intro z hz s a rest
  cases h : trimStart s with
  | nil =>
    have blank : trimStart (s ++ z) = trimStart z := by
      rw [trimStart, List.dropWhile_append, ← trimStart, h]
      rfl
    have length := (trimStart_suffix z).length_le
    constructor
    · intro hr
      have := shorter hr
      rw [blank, List.length_append] at this
      omega
    · intro hr
      have := shorter hr
      rw [h] at this
      cases this
  | cons c u =>
    refine behind h ?_ hz a rest
    rw [trimStart, List.dropWhile_append, ← trimStart, h]
    rfl

theorem number?_local : number?.Local := by
  apply Reader.local_of_trimStart
  · intro s n rest h
    exact length_lt_of_upTo? h
  · intro s c u z h h' hz n rest
    rw [number?, number?, h, h', ← List.cons_append]
    exact upTo?_local 2 hz (c :: u) n rest

theorem year?_local : year?.Local := by
  apply Reader.local_of_trimStart
  · intro s y rest h
    obtain ⟨r, n, ht, hn, -⟩ | ⟨r, n, ht, hn, -⟩ | ⟨n, hn, -⟩ := year?_eq_some_iff.mp h
    · rw [ht]
      exact Nat.lt_succ_of_lt (length_lt_of_upTo? hn)
    · rw [ht]
      exact Nat.lt_succ_of_lt (length_lt_of_upTo? hn)
    · exact length_lt_of_upTo? hn
  · intro s c u z h h' hz y rest
    have signed : ∀ n, upTo? (u ++ z).length (u ++ z) = some (n, rest ++ z) ↔ upTo? u.length u = some (n, rest) := by
      intro n
      rw [upTo?_local _ hz, upTo?_of_length_le (by simp)]
    have unsigned : ∀ n, upTo? 4 (c :: (u ++ z)) = some (n, rest ++ z) ↔ upTo? 4 (c :: u) = some (n, rest) :=
      fun n => upTo?_local 4 hz (c :: u) n rest
    simp only [year?_eq_some_iff, h, h', List.cons.injEq, and_assoc, exists_and_left, exists_eq_left', signed, unsigned]

theorem date?_local : date?.Local := by
  intro z hz s date rest
  rw [date?_eq_some_iff, date?_eq_some_iff]
  constructor
  · rintro ⟨_, _, hy, hm, hd⟩
    obtain ⟨day, rfl, -⟩ := number?_over hd
    obtain ⟨month, rfl, -⟩ := number?_over hm
    rw [← List.append_assoc] at hd
    refine ⟨month ++ '-' :: (day ++ rest), day ++ rest, ?_, ?_, (number?_local hz _ _ _).mp hd⟩
    · exact (year?_local hz _ _ _).mp (by simpa using hy)
    · exact (number?_local hz _ _ _).mp (by simpa using hm)
  · rintro ⟨month, day, hy, hm, hd⟩
    exact ⟨month ++ z, day ++ z, (year?_local hz _ _ _).mpr hy, (number?_local hz _ _ _).mpr hm,
      (number?_local hz _ _ _).mpr hd⟩

theorem date?_append_iff (h : NoDigitAhead z) : date? (d ++ z) = some (date, z) ↔ date? d = some (date, []) :=
  date?_local h d date []

theorem Iso.local?_append_iff {time? : Reader TimeOfDay} (fields : time?.Over IsFieldChar) :
    local? time? (d ++ 'T' :: t) = some m ↔
      ∃ date time, date? d = some (date, []) ∧ time? t = some (time, []) ∧ moment? date time 0 = some m := by
  have noDigit : NoDigitAhead ('T' :: t) := noDigitAhead_cons rfl t
  have letter : ¬ IsFieldChar 'T' := by decide
  rw [local?_eq_some_iff]
  constructor
  · rintro ⟨date, time, tail, hd, ht, hm⟩
    obtain ⟨taken, cut, dateChars⟩ := date?_over hd
    obtain ⟨tail, rfl, timeChars⟩ := fields ht
    rw [List.append_nil] at *
    obtain ⟨rfl, -, rfl⟩ := (List.append_cons_inj_of_notMem (fun h => letter (dateChars _ h))
      (fun h => letter (timeChars _ h))).mp cut.symm
    exact ⟨date, time, (date?_append_iff noDigit).mp hd, ht, hm⟩
  · rintro ⟨date, time, hd, ht, hm⟩
    exact ⟨date, time, t, (date?_append_iff noDigit).mpr hd, ht, hm⟩

theorem dateTime?_append_iff (h : byteSize d = 10) :
    dateTime? (d ++ ':' :: t) = some m ↔
      ∃ date time, date? d = some (date, []) ∧
        (byteSize t = 5 ∧ hourMinute? t = some (time, []) ∨ byteSize t = 8 ∧ hourMinuteSecond? t = some (time, [])) ∧
        moment? date time 0 = some m := by
  rw [dateTime?_eq_some_iff]
  constructor
  · rintro ⟨d', t', date, time, cut, size, hd, ht, hm⟩
    obtain ⟨rfl, tail⟩ := append_inj_of_byteSize_eq cut (h.trans size.symm)
    cases tail
    exact ⟨date, time, hd, ht, hm⟩
  · rintro ⟨date, time, hd, ht, hm⟩
    exact ⟨d, t, date, time, rfl, h, hd, ht, hm⟩

theorem iso?_of_dateTime? (h : byteSize d = 10) (hm : dateTime? (d ++ ':' :: t) = some m) :
    iso? (d ++ 'T' :: t) = some m := by
  obtain ⟨date, time, hd, ht, valid⟩ := (dateTime?_append_iff h).mp hm
  refine iso?_eq_some_iff.mpr ⟨List.mem_append_right _ List.mem_cons_self, ?_⟩
  obtain ⟨-, ht⟩ | ⟨-, ht⟩ := ht
  · exact ⟨Iso.toMinute?, by simp [Iso.forms], (Iso.local?_append_iff hourMinute?_over).mpr ⟨date, time, hd, ht, valid⟩⟩
  · exact ⟨Iso.toSecond?, by simp [Iso.forms],
      (Iso.local?_append_iff hourMinuteSecond?_over).mpr ⟨date, time, hd, ht, valid⟩⟩

namespace TimeFigures

variable {f : TimeFigures}

theorem time_of_hourMinute? (h : hourMinute? f.text = some (time, [])) : time = f.time := by
  cases hs : f.second with
  | none =>
    obtain ⟨text, number⟩ := f.no_seconds hs
    rw [hourMinute?_text, text] at h
    cases h
    rw [TimeFigures.time, number]
  | some s => simp [hourMinute?_text, secondText, hs] at h

theorem time_of_hourMinuteFraction? (h : hourMinuteFraction? f.text = some (time, rest)) : time = f.time ∧ rest = [] := by
  obtain ⟨hms, milli, tail, toSecond, fraction, rfl⟩ := hourMinuteFraction?_eq_some_iff.mp h
  cases hs : f.second with
  | none =>
    obtain ⟨_, _, _, toMinute, -⟩ := hourMinuteSecond?_eq_some_iff.mp toSecond
    simp [hourMinute?_text, secondText, hs] at toMinute
  | some s =>
    have figures := hourMinuteSecond?_append hs []
    rw [List.append_nil, toSecond] at figures
    cases figures
    cases fraction
    exact ⟨rfl, rfl⟩

end TimeFigures

theorem Iso.zoned?_figures (h : byteSize d = 10) (f : TimeFigures) : zoned? (d ++ 'T' :: f.text) = none := by
  rw [Option.eq_none_iff_forall_ne_some]
  intro m hm
  obtain ⟨_, _, _, _, _, _, hd, -, ht, hz, -⟩ := zoned?_eq_some_iff.mp hm
  obtain ⟨taken, cut, size⟩ := byteSize_of_strictDate? hd
  obtain ⟨-, tail⟩ := append_inj_of_byteSize_eq cut (h.trans size.symm)
  cases tail
  obtain ⟨-, rfl⟩ := TimeFigures.time_of_hourMinuteFraction? (hourMinuteFraction?_of_strictTime? ht)
  cases hz

theorem dateTime?_of_iso? (h : byteSize d = 10) {f : TimeFigures} (hm : iso? (d ++ 'T' :: f.text) = some m) :
    dateTime? (d ++ ':' :: f.text) = some m := by
  have read : ∃ date, date? d = some (date, []) ∧ moment? date f.time 0 = some m := by
    obtain ⟨-, form, hf, hm⟩ := iso?_eq_some_iff.mp hm
    simp only [Iso.forms, List.mem_cons, List.not_mem_nil, or_false] at hf
    obtain rfl | rfl | rfl | rfl := hf
    · rw [Iso.zoned?_figures h f] at hm
      cases hm
    · obtain ⟨date, time, hd, ht, valid⟩ :=
        (Iso.local?_append_iff hourMinuteFraction?_over).mp (Iso.toFraction?_of_toSecond? hm)
      obtain ⟨rfl, -⟩ := TimeFigures.time_of_hourMinuteFraction? ht
      exact ⟨date, hd, valid⟩
    · obtain ⟨date, time, hd, ht, valid⟩ := (Iso.local?_append_iff hourMinuteFraction?_over).mp hm
      obtain ⟨rfl, -⟩ := TimeFigures.time_of_hourMinuteFraction? ht
      exact ⟨date, hd, valid⟩
    · obtain ⟨date, time, hd, ht, valid⟩ := (Iso.local?_append_iff hourMinute?_over).mp hm
      obtain rfl := TimeFigures.time_of_hourMinute? ht
      exact ⟨date, hd, valid⟩
  obtain ⟨date, hd, valid⟩ := read
  exact (dateTime?_append_iff h).mpr ⟨date, f.time, hd, f.read_whole, valid⟩

theorem ofText?_of_letter_mem (h : 'T' ∈ s) : ofText? s = (iso? s).map ofMoment := by
  apply Option.ext
  intro e
  rw [ofText?_eq_some_iff, Option.map_eq_some_iff]
  constructor
  · rintro (⟨t, ht, -⟩ | ⟨t, ht, -⟩ | found | ⟨m, hm, -⟩)
    · exact absurd ((epoch?_eq_some_iff.mp ht).2.1 'T' h) (by decide)
    · obtain ⟨n, unit, written⟩ := exists_writtenAgo_of_offset? ht
      exact absurd h (not_mem_of_writtenAgo written (.inr rfl))
    · exact found
    · exact absurd (isFieldChar_of_dateTime? hm 'T' h) (by decide)
  · intro found
    exact .inr (.inr (.inl found))

theorem valid_of_dateTime? (h : dateTime? s = some m) : m.Valid ∧ m.east = 0 := by
  obtain ⟨_, _, _, _, -, -, -, -, hm⟩ := dateTime?_eq_some_iff.mp h
  obtain ⟨rfl, valid⟩ := moment?_eq_some_iff.mp hm
  exact ⟨valid, rfl⟩

/-- A colon behind ten bytes of date and the letter of ISO 8601 in its place say the same, however the date and the time
of day are spelled.  So they do the other way round where the time of day is in figures. -/
theorem colon_and_letter_agree (d : List Char) (hd : byteSize d = 10) (clock : Clock) :
    (∀ t m, trim (d ++ ':' :: t) = d ++ ':' :: t → dateTime? (d ++ ':' :: t) = some m →
      ∃ v, v.toInt = m.epochMillis ∧ read (String.ofList (d ++ ':' :: t)) clock = (.ok v, clock) ∧
        read (String.ofList (d ++ 'T' :: t)) clock = (.ok v, clock)) ∧
    ∀ (f : TimeFigures) v, (∀ c ∈ d.head?, isBlank c = false) →
      (read (String.ofList (d ++ 'T' :: f.text)) clock).1 = .ok v →
        read (String.ofList (d ++ ':' :: f.text)) clock = (.ok v, clock) := by
  have dn : d ≠ [] := by
    rintro rfl
    cases hd
  constructor
  · intro t m trimmed hm
    have tn : t ≠ [] := by
      rintro rfl
      obtain ⟨_, _, -, ⟨size, -⟩ | ⟨size, -⟩, -⟩ := (dateTime?_append_iff hd).mp hm <;> cases size
    have ends := (trim_append_cons_iff dn tn ':').mp trimmed
    obtain ⟨valid, east⟩ := valid_of_dateTime? hm
    have colon : ofText? (d ++ ':' :: t) = some (ofMoment m) := ofText?_eq_some_iff.mpr (.inr (.inr (.inr ⟨m, hm, rfl⟩)))
    have letter : ofText? (d ++ 'T' :: t) = some (ofMoment m) :=
      ofText?_eq_some_iff.mpr (.inr (.inr (.inl ⟨m, iso?_of_dateTime? hd hm, rfl⟩)))
    refine ⟨_, Word.toInt_ofInt_of_fits (fits_epochMillis valid (by omega)), ?_, ?_⟩
    · exact read_instant trimmed colon clock
    · exact read_instant ((trim_append_cons_iff dn tn 'T').mpr ends) letter clock
  · intro f v start hv
    have finish : ∀ c ∈ f.text.getLast?, isBlank c = false :=
      fun c hc => (f.isInstantChar c (List.mem_of_getLast? hc)).isBlank_eq_false
    have trimmed : ∀ c, trim (d ++ c :: f.text) = d ++ c :: f.text :=
      fun c => (trim_append_cons_iff dn f.text_ne_nil c).mpr ⟨start, finish⟩
    have named := ofText?_of_letter_mem (s := d ++ 'T' :: f.text) (List.mem_append_right _ List.mem_cons_self)
    cases hm : iso? (d ++ 'T' :: f.text) with
    | none =>
      rw [hm] at named
      rw [read_unrecognized (trimmed 'T') named] at hv
      cases hv
    | some m =>
      rw [hm] at named
      rw [read_instant (trimmed 'T') named] at hv
      cases hv
      have colon := ofText?_eq_some_iff.mpr (.inr (.inr (.inr ⟨m, dateTime?_of_iso? hd hm, rfl⟩)))
      exact read_instant (trimmed ':') colon clock

theorem wide_blank_before_the_day :
    byteSize "-10-2-\u30007".toList = 10 ∧
      (∃ v, v.toInt = -62479530000000 ∧ read "-10-2-\u30007: 7:00" (.fixed 0) = (.ok v, .fixed 0) ∧
        read "-10-2-\u30007T 7:00" (.fixed 0) = (.ok v, .fixed 0)) ∧
      read "2026-02-07:17:00" (.fixed 0) = (.ok 1770483600000, .fixed 0) := by
  have size : byteSize "-10-2-\u30007".toList = 10 := by decide
  have date : dateTime? ("-10-2-\u30007".toList ++ ':' :: " 7:00".toList) = some ⟨⟨-10, 2, 7⟩, ⟨7, 0, 0, 0⟩, 0⟩ :=
    (dateTime?_append_iff size).mpr ⟨⟨-10, 2, 7⟩, ⟨7, 0, 0, 0⟩, by decide, .inl ⟨by decide, by decide⟩, by decide⟩
  have instant : (read "2026-02-07T17:00" (.fixed 0)).1 = .ok 1770483600000 := by decide
  have start : ∀ c ∈ "2026-02-07".toList.head?, isBlank c = false := by
    rintro _ ⟨⟩
    rfl
  refine ⟨size, ?_, ?_⟩
  · obtain ⟨v, value, reads⟩ := (colon_and_letter_agree "-10-2-\u30007".toList size (.fixed 0)).1 _ _ (by decide) date
    exact ⟨v, value.trans (by decide), reads⟩
  · exact (colon_and_letter_agree "2026-02-07".toList (by decide) (.fixed 0)).2
      ⟨⟨"17".toList, rfl, rfl⟩, ⟨"00".toList, rfl, rfl⟩, none⟩ _ start instant

end TimeWindow.Endpoint
