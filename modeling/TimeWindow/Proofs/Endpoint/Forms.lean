import TimeWindow.Endpoint
import TimeWindow.Proofs.Endpoint.Iso

namespace TimeWindow.Endpoint

open Calendar Text

theorem epoch?_eq_some_iff {s : List Char} {t : Millis} :
    epoch? s = some t ↔ s ≠ [] ∧ (∀ c ∈ s, c.isDigit) ∧ t.toInt = value s := by
  simp only [epoch?, List.all_eq_true]
  split
  · next h =>
    rw [Word.ofInt?_eq_some_iff]
    exact ⟨fun e => ⟨h.1, h.2, e⟩, fun e => e.2.2⟩
  · next h =>
    constructor
    · intro e
      cases e
    · rintro ⟨hn, hd, -⟩
      exact absurd ⟨hn, hd⟩ h

def units : List (Char × Nat) :=
  [('s', 1000), ('m', 60 * 1000), ('h', 60 * 60 * 1000), ('d', 24 * 60 * 60 * 1000),
    ('w', 7 * 24 * 60 * 60 * 1000)]

theorem unitMillis?_eq_some_iff {c : Char} {n : Nat} : unitMillis? c = some n ↔ (c, n) ∈ units := by
  unfold unitMillis?
  split <;> simp_all [units, eq_comm]

/-- A hyphen, digits and a unit: `n` units of `unit` milliseconds ago. -/
def WrittenAgo (s : List Char) (n unit : Nat) : Prop :=
  ∃ digits u, s = '-' :: (digits ++ [u]) ∧ digits ≠ [] ∧ (∀ c ∈ digits, c.isDigit) ∧
    value digits = n ∧ (u, unit) ∈ units

theorem offset?_of_writtenAgo {s : List Char} {n unit : Nat} (h : WrittenAgo s n unit) :
    offset? s = Word.ofInt? (n * unit : Nat) := by
  obtain ⟨digits, u, rfl, hn, hd, rfl, hu⟩ := h
  have all : digits.all Char.isDigit := List.all_eq_true.mpr hd
  simp only [offset?, List.getLast?_append, List.getLast?_singleton, Option.some_or, Option.bind_eq_bind,
    Option.bind_some, unitMillis?_eq_some_iff.mpr hu, List.dropLast_concat, ne_eq, hn, not_false_eq_true,
    all, and_self, if_true]

theorem exists_writtenAgo_of_offset? {s : List Char} {t : Millis} (h : offset? s = some t) :
    ∃ n unit, WrittenAgo s n unit := by
  unfold offset? at h
  split at h
  · next s =>
    simp only [Option.bind_eq_bind, Option.bind_eq_some_iff] at h
    obtain ⟨u, hu, unit, hunit, h⟩ := h
    split at h
    · next hd =>
      obtain ⟨digits, rfl⟩ := List.getLast?_eq_some_iff.mp hu
      rw [List.dropLast_concat] at hd
      exact ⟨value digits, unit, digits, u, rfl, hd.1, List.all_eq_true.mp hd.2, rfl,
        unitMillis?_eq_some_iff.mp hunit⟩
    · cases h
  · cases h

theorem not_mem_of_writtenAgo {s : List Char} {n unit : Nat} (h : WrittenAgo s n unit) {c : Char}
    (hc : c = ':' ∨ c = 'T') : c ∉ s := by
  obtain ⟨digits, u, rfl, -, hd, -, hu⟩ := h
  have hyphen : c ≠ '-' := by rcases hc with rfl | rfl <;> decide
  have digit : c ∉ digits := by
    intro hm
    have := hd c hm
    rcases hc with rfl | rfl <;> contradiction
  have last : c ≠ u := by
    rintro rfl
    rcases hc with rfl | rfl <;> simp [units] at hu
  simp [hyphen, digit, last]

theorem dateTime?_eq_some_iff {s : List Char} {m : Moment} :
    dateTime? s = some m ↔
      ∃ d t date time, s = d ++ ':' :: t ∧ byteSize d = 10 ∧ date? d = some (date, []) ∧
        (byteSize t = 5 ∧ hourMinute? t = some (time, []) ∨
          byteSize t = 8 ∧ hourMinuteSecond? t = some (time, [])) ∧
        moment? date time 0 = some m := by
  have timeOf : ∀ {t : List Char} {next : TimeOfDay → Option Moment},
      (if byteSize t = 5 then (Reader.whole hourMinute? t).bind next
        else if byteSize t = 8 then (Reader.whole hourMinuteSecond? t).bind next else none.bind next) = some m ↔
      ∃ time, (byteSize t = 5 ∧ hourMinute? t = some (time, []) ∨
        byteSize t = 8 ∧ hourMinuteSecond? t = some (time, [])) ∧ next time = some m := by
    intro t next
    split
    · next h => simp [h, Option.bind_eq_some_iff, Reader.whole_eq_some_iff]
    · next h =>
      split
      · next h' => simp [h', Option.bind_eq_some_iff, Reader.whole_eq_some_iff]
      · next h' => simp [h, h']
  simp only [dateTime?, Option.bind_eq_bind, Option.bind_eq_some_iff, Prod.exists, cut?_eq_some_iff,
    skip?_eq_some_iff, Reader.whole_eq_some_iff, timeOf]
  constructor
  · rintro ⟨d, _, ⟨rfl, hl⟩, t, rfl, date, hd, time, ht, hm⟩
    exact ⟨d, t, date, time, rfl, hl, hd, ht, hm⟩
  · rintro ⟨d, t, date, time, rfl, hl, hd, ht, hm⟩
    exact ⟨d, _, ⟨rfl, hl⟩, t, rfl, date, hd, time, ht, hm⟩

theorem isFieldChar_of_dateTime? {s : List Char} {m : Moment} (h : dateTime? s = some m) :
    ∀ c ∈ s, IsFieldChar c := by
  obtain ⟨d, t, date, time, rfl, -, hd, ht, -⟩ := dateTime?_eq_some_iff.mp h
  obtain ⟨d, rfl, cd⟩ := date?_over hd
  have ct : ∀ c ∈ t, IsFieldChar c := by
    obtain ⟨-, ht⟩ | ⟨-, ht⟩ := ht
    · obtain ⟨t, rfl, ct⟩ := hourMinute?_over ht
      simpa using ct
    · obtain ⟨t, rfl, ct⟩ := hourMinuteSecond?_over ht
      simpa using ct
  have colon : IsFieldChar ':' := by decide
  simp only [List.append_nil, List.mem_append, List.mem_cons]
  grind

theorem epoch?_apart_offset? : Apart epoch? offset? := by
  intro s a b ha hb
  obtain ⟨-, hd, -⟩ := epoch?_eq_some_iff.mp ha
  obtain ⟨n, unit, digits, u, rfl, -⟩ := exists_writtenAgo_of_offset? hb
  exact absurd (hd '-' List.mem_cons_self) (by decide)

theorem mem_of_iso? {s : List Char} {m : Moment} (h : iso? s = some m) : 'T' ∈ s := by
  unfold iso? at h
  split at h
  · assumption
  · cases h

theorem colon_mem_of_dateTime? {s : List Char} {m : Moment} (h : dateTime? s = some m) : ':' ∈ s := by
  obtain ⟨d, t, _, _, rfl, -⟩ := dateTime?_eq_some_iff.mp h
  exact List.mem_append_right _ List.mem_cons_self

theorem epoch?_apart_iso? : Apart epoch? iso? := by
  intro s a b ha hb
  obtain ⟨-, hd, -⟩ := epoch?_eq_some_iff.mp ha
  exact absurd (hd 'T' (mem_of_iso? hb)) (by decide)

theorem epoch?_apart_dateTime? : Apart epoch? dateTime? := by
  intro s a b ha hb
  obtain ⟨-, hd, -⟩ := epoch?_eq_some_iff.mp ha
  exact absurd (hd ':' (colon_mem_of_dateTime? hb)) (by decide)

theorem offset?_apart_iso? : Apart offset? iso? := by
  intro s a b ha hb
  obtain ⟨n, unit, h⟩ := exists_writtenAgo_of_offset? ha
  exact not_mem_of_writtenAgo h (.inr rfl) (mem_of_iso? hb)

theorem offset?_apart_dateTime? : Apart offset? dateTime? := by
  intro s a b ha hb
  obtain ⟨n, unit, h⟩ := exists_writtenAgo_of_offset? ha
  exact not_mem_of_writtenAgo h (.inl rfl) (colon_mem_of_dateTime? hb)

theorem iso?_apart_dateTime? : Apart iso? dateTime? := by
  intro s a b ha hb
  exact absurd (isFieldChar_of_dateTime? hb 'T' (mem_of_iso? ha)) (by decide)

def isoBy (forms : List (List Char → Option Moment)) (s : List Char) : Option Moment :=
  if 'T' ∈ s then firstOf forms s else none

theorem isoBy_forms : isoBy Iso.forms = iso? := by
  funext s
  simp [isoBy, iso?, Iso.forms]

def forms (iso : List Char → Option Moment) : List (List Char → Option Endpoint) :=
  [fun s => (epoch? s).map fixed, fun s => (offset? s).map ago, fun s => (iso s).map ofMoment,
    fun s => (dateTime? s).map ofMoment]

theorem firstOf_forms : firstOf (forms iso?) = ofText? := by
  funext s
  simp [forms, ofText?]

theorem forms_agree : (forms iso?).Pairwise Agree := by
  simp only [forms, List.pairwise_cons, List.forall_mem_cons, List.not_mem_nil, false_implies, implies_true,
    List.Pairwise.nil, and_true]
  exact ⟨⟨(epoch?_apart_offset?.map _ _).agree, (epoch?_apart_iso?.map _ _).agree,
      (epoch?_apart_dateTime?.map _ _).agree⟩,
    ⟨(offset?_apart_iso?.map _ _).agree, (offset?_apart_dateTime?.map _ _).agree⟩,
    (iso?_apart_dateTime?.map _ _).agree⟩

theorem ofText?_eq_some_iff {s : List Char} {e : Endpoint} :
    ofText? s = some e ↔
      (∃ t, epoch? s = some t ∧ fixed t = e) ∨ (∃ t, offset? s = some t ∧ ago t = e) ∨
        (∃ m, iso? s = some m ∧ ofMoment m = e) ∨ ∃ m, dateTime? s = some m ∧ ofMoment m = e := by
  rw [← firstOf_forms, firstOf_eq_some_iff forms_agree]
  simp only [forms, List.mem_cons, List.not_mem_nil, or_false, exists_eq_or_imp, exists_eq_left,
    Option.map_eq_some_iff]

theorem ofText?_eq_none {s : List Char} (epoch : epoch? s = none) (offset : offset? s = none) (letter : 'T' ∉ s)
    (colon : ':' ∉ s) : ofText? s = none := by
  rw [Option.eq_none_iff_forall_ne_some]
  intro e he
  obtain ⟨t, ht, -⟩ | ⟨t, ht, -⟩ | ⟨m, hm, -⟩ | ⟨m, hm, -⟩ := ofText?_eq_some_iff.mp he
  · exact nomatch epoch.symm.trans ht
  · exact nomatch offset.symm.trans ht
  · exact letter (mem_of_iso? hm)
  · exact colon (colon_mem_of_dateTime? hm)

theorem iso?_eq_some_iff {s : List Char} {m : Moment} :
    iso? s = some m ↔ 'T' ∈ s ∧ ∃ f ∈ Iso.forms, f s = some m := by
  rw [← isoBy_forms, isoBy]
  split
  · next h => simp only [h, true_and, firstOf_eq_some_iff Iso.forms_agree]
  · next h => simp [h]

/-- No text has two of the forms, and none of ISO 8601 has two meanings: whatever the order of the attempts,
a text reads as the same endpoint, with the same fault and the same readings of the clock. -/
theorem forms_exclusive_in_any_order :
    (∀ s, [(epoch? s).isSome, (offset? s).isSome, (iso? s).isSome, (dateTime? s).isSome].count true ≤ 1) ∧
    (∀ s, (Iso.zoned? s).isSome →
      Iso.toSecond? s = none ∧ Iso.toFraction? s = none ∧ Iso.toMinute? s = none) ∧
    (∀ s, (Iso.toMinute? s).isSome → Iso.toSecond? s = none ∧ Iso.toFraction? s = none) ∧
    (∀ s m n, Iso.toSecond? s = some m → Iso.toFraction? s = some n → m.epochMillis = n.epochMillis) ∧
    ∀ inner outer, inner.Perm Iso.forms → outer.Perm (forms (isoBy inner)) →
      ∀ input clock, readBy (firstOf outer) input clock = read input clock := by
  refine ⟨?_, ?_, ?_, ?_, ?_⟩
  · intro s
    have atMostOne : ∀ a b c d : Bool, (a → b = false) → (a → c = false) → (a → d = false) →
        (b → c = false) → (b → d = false) → (c → d = false) → [a, b, c, d].count true ≤ 1 := by decide
    have apart : ∀ {α β : Type} {f : List Char → Option α} {g : List Char → Option β}, Apart f g →
        (f s).isSome → (g s).isSome = false := by
      intro α β f g h hf
      rw [h.eq_none hf]
      rfl
    exact atMostOne _ _ _ _ (apart epoch?_apart_offset?) (apart epoch?_apart_iso?)
      (apart epoch?_apart_dateTime?) (apart offset?_apart_iso?) (apart offset?_apart_dateTime?)
      (apart iso?_apart_dateTime?)
  · intro s h
    exact ⟨Iso.zoned?_apart_toSecond?.eq_none h, Iso.zoned?_apart_toFraction?.eq_none h,
      Iso.zoned?_apart_toMinute?.eq_none h⟩
  · intro s h
    exact ⟨Iso.toMinute?_apart_toSecond?.eq_none h, Iso.toMinute?_apart_toFraction?.eq_none h⟩
  · intro s m n hm hn
    rw [Iso.toSecond?_agree_toFraction? hm hn]
  · intro inner outer hi ho input clock
    have iso : isoBy inner = iso? := by
      funext s
      rw [← isoBy_forms, isoBy, isoBy, firstOf_perm Iso.forms_agree hi]
    rw [iso] at ho
    rw [firstOf_perm forms_agree ho, firstOf_forms, read]

theorem forms_reversed :
    Iso.forms.reverse.Perm Iso.forms ∧
      (Iso.toSecond? "2026-02-07T17:00:00".toList).isSome ∧
      (Iso.toFraction? "2026-02-07T17:00:00".toList).isSome ∧
      (readBy (firstOf (forms (isoBy Iso.forms.reverse)).reverse) "2026-02-07T17:00:00" (.fixed 0)).1 =
        .ok 1770483600000 := by
  refine ⟨List.reverse_perm _, by decide, by decide, ?_⟩
  rw [forms_exclusive_in_any_order.2.2.2.2 _ _ (List.reverse_perm _) (List.reverse_perm _)]
  decide

end TimeWindow.Endpoint
