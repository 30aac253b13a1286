import TimeWindow.Proofs.Endpoint.Attempts
import TimeWindow.Proofs.Endpoint.Reader

namespace TimeWindow.Endpoint.Iso

open Calendar Text

theorem local?_eq_some_iff {time? : Reader TimeOfDay} {s : List Char} {m : Moment} :
    local? time? s = some m ↔
      ∃ date time tail, date? s = some (date, 'T' :: tail) ∧ time? tail = some (time, []) ∧
        moment? date time 0 = some m := by
  simp only [local?, Reader.whole_eq_some_iff, Option.bind_eq_bind, Option.bind_eq_some_iff, Prod.exists,
    skip?_eq_some_iff, Option.pure_def, Option.some.injEq, Prod.mk.injEq]
  constructor
  · rintro ⟨date, _, hd, tail, rfl, time, _, ht, m, hm, rfl, rfl⟩
    exact ⟨date, time, tail, hd, ht, hm⟩
  · rintro ⟨date, time, tail, hd, ht, hm⟩
    exact ⟨date, _, hd, tail, rfl, time, _, ht, m, hm, rfl, rfl⟩

theorem separator?_eq_some_iff {s tail : List Char} :
    (skip? 'T' s <|> skip? 't' s <|> skip? ' ' s) = some tail ↔ ∃ c ∈ ['T', 't', ' '], s = c :: tail := by
  simp only [List.mem_cons, List.not_mem_nil, or_false, exists_eq_or_imp, exists_eq_left]
  cases s with
  | nil => simp [skip?]
  | cons d s =>
    by_cases h₁ : d = 'T'
    · simp [skip?, h₁]
    · by_cases h₂ : d = 't'
      · simp [skip?, h₂]
      · simp [skip?, h₁, h₂]

theorem zoned?_eq_some_iff {s : List Char} {m : Moment} :
    zoned? s = some m ↔
      ∃ date c tail time zone east, strictDate? s = some (date, c :: tail) ∧ c ∈ ['T', 't', ' '] ∧
        strictTime? tail = some (time, zone) ∧ zone? zone = some (east, []) ∧
          moment? date time east = some m := by
  simp only [zoned?, Reader.whole_eq_some_iff, Option.bind_eq_bind, Option.bind_eq_some_iff, Prod.exists,
    Option.pure_def, Option.some.injEq, Prod.mk.injEq, separator?_eq_some_iff]
  constructor
  · rintro ⟨date, _, hd, tail, ⟨c, hc, rfl⟩, time, zone, ht, east, _, hz, _, hm, rfl, rfl⟩
    exact ⟨date, c, tail, time, zone, east, hd, hc, ht, hz, hm⟩
  · rintro ⟨date, c, tail, time, zone, east, hd, hc, ht, hz, hm⟩
    exact ⟨date, _, hd, tail, ⟨c, hc, rfl⟩, time, zone, ht, east, _, hz, m, hm, rfl, rfl⟩

section

variable {s rest tail zone : List Char} {date : Date} {time : TimeOfDay} {time? : Reader TimeOfDay}
  {c : Char} {east : Int}

theorem local?_of_whole (hd : date? s = some (date, 'T' :: tail)) (ht : time? tail = some (time, [])) :
    local? time? s = moment? date time 0 := by
  simp [local?, Reader.whole, hd, skip?, ht]
  cases moment? date time 0 <;> rfl

theorem local?_eq_none (hd : date? s = some (date, 'T' :: tail)) (ht : time? tail = some (time, rest))
    (hn : rest ≠ []) : local? time? s = none := by
  rw [Option.eq_none_iff_forall_ne_some]
  intro m hm
  obtain ⟨_, _, _, hd', ht', -⟩ := local?_eq_some_iff.mp hm
  cases hd.symm.trans hd'
  cases ht.symm.trans ht'
  exact hn rfl

theorem zoned?_of_zone (hd : strictDate? s = some (date, c :: tail)) (hc : c ∈ ['T', 't', ' '])
    (ht : strictTime? tail = some (time, zone)) (hz : zone? zone = some (east, [])) :
    zoned? s = moment? date time east := by
  apply Option.ext
  intro m
  rw [zoned?_eq_some_iff]
  constructor
  · rintro ⟨_, _, _, _, _, _, hd', -, ht', hz', hm⟩
    cases hd.symm.trans hd'
    cases ht.symm.trans ht'
    cases hz.symm.trans hz'
    exact hm
  · intro hm
    exact ⟨_, c, tail, _, zone, _, hd, hc, ht, hz, hm⟩

theorem zoned?_eq_none (hd : strictDate? s = some (date, c :: tail)) (ht : strictTime? tail = some (time, [])) :
    zoned? s = none := by
  rw [Option.eq_none_iff_forall_ne_some]
  intro m hm
  obtain ⟨_, _, _, _, _, _, hd', -, ht', hz', -⟩ := zoned?_eq_some_iff.mp hm
  cases hd.symm.trans hd'
  cases ht.symm.trans ht'
  cases hz'

end

theorem local?_apart {time₁ time₂ : Reader TimeOfDay}
    (h : ∀ ⦃s t u⦄, time₁ s = some (t, []) → time₂ s = some (u, []) → False) :
    Apart (local? time₁) (local? time₂) := by
  intro s m n hm hn
  obtain ⟨_, _, tail, hd, ht, -⟩ := local?_eq_some_iff.mp hm
  obtain ⟨_, _, tail', hd', hu, -⟩ := local?_eq_some_iff.mp hn
  cases hd.symm.trans hd'
  exact h ht hu

theorem zoned?_apart {time? : Reader TimeOfDay}
    (h : ∀ ⦃s t u zone⦄, hourMinuteFraction? s = some (t, zone) → time? s = some (u, []) → zone = []) :
    Apart zoned? (local? time?) := by
  intro s m n hm hn
  obtain ⟨_, _, tail, _, zone, _, hd, -, ht, hz, -⟩ := zoned?_eq_some_iff.mp hm
  obtain ⟨_, _, tail', hd', hu, -⟩ := local?_eq_some_iff.mp hn
  cases (date?_of_strictDate? hd).symm.trans hd'
  cases h (hourMinuteFraction?_of_strictTime? ht) hu
  cases hz

theorem toMinute?_apart_toSecond? : Apart toMinute? toSecond? := by
  apply local?_apart
  intro s t u ht hu
  obtain ⟨_, _, _, hm, -, -⟩ := hourMinuteSecond?_eq_some_iff.mp hu
  cases ht.symm.trans hm

theorem toMinute?_apart_toFraction? : Apart toMinute? toFraction? := by
  apply local?_apart
  intro s t u ht hu
  obtain ⟨_, _, _, hs, -, -⟩ := hourMinuteFraction?_eq_some_iff.mp hu
  obtain ⟨_, _, _, hm, -, -⟩ := hourMinuteSecond?_eq_some_iff.mp hs
  cases ht.symm.trans hm

theorem hourMinuteFraction?_of_hourMinuteSecond? {s : List Char} {t : TimeOfDay}
    (h : hourMinuteSecond? s = some (t, [])) : hourMinuteFraction? s = some (t, []) := by
  obtain ⟨hm, second, tail, hh, hs, ht⟩ := hourMinuteSecond?_eq_some_iff.mp h
  obtain ⟨_, _, _, -, -, ht'⟩ := hourMinute?_eq_some_iff.mp hh
  refine hourMinuteFraction?_eq_some_iff.mpr ⟨t, 0, [], h, rfl, ?_⟩
  rw [ht, ht']

theorem zoned?_apart_toFraction? : Apart zoned? toFraction? := by
  apply zoned?_apart
  intro s t u zone ht hu
  cases ht.symm.trans hu
  rfl

theorem zoned?_apart_toSecond? : Apart zoned? toSecond? := by
  apply zoned?_apart
  intro s t u zone ht hu
  cases ht.symm.trans (hourMinuteFraction?_of_hourMinuteSecond? hu)
  rfl

theorem zoned?_apart_toMinute? : Apart zoned? toMinute? := by
  apply zoned?_apart
  intro s t u zone ht hu
  obtain ⟨_, _, _, hs, -, -⟩ := hourMinuteFraction?_eq_some_iff.mp ht
  obtain ⟨_, _, _, hm, -, -⟩ := hourMinuteSecond?_eq_some_iff.mp hs
  cases hu.symm.trans hm

/-- The one overlap: an empty fraction is no fraction, and the moment is the same. -/
theorem toFraction?_of_toSecond? {s : List Char} {m : Moment} (h : toSecond? s = some m) :
    toFraction? s = some m := by
  obtain ⟨date, time, tail, hd, ht, hm⟩ := local?_eq_some_iff.mp h
  exact local?_eq_some_iff.mpr ⟨date, time, tail, hd, hourMinuteFraction?_of_hourMinuteSecond? ht, hm⟩

theorem toSecond?_agree_toFraction? : Agree toSecond? toFraction? := by
  intro s m n hm hn
  exact Option.some.inj ((toFraction?_of_toSecond? hm).symm.trans hn)

def forms : List (List Char → Option Moment) := [zoned?, toSecond?, toFraction?, toMinute?]

theorem forms_agree : forms.Pairwise Agree := by
  simp only [forms, List.pairwise_cons, List.forall_mem_cons, List.not_mem_nil, false_implies, implies_true,
    List.Pairwise.nil, and_true]
  exact ⟨⟨zoned?_apart_toSecond?.agree, zoned?_apart_toFraction?.agree, zoned?_apart_toMinute?.agree⟩,
    ⟨toSecond?_agree_toFraction?, toMinute?_apart_toSecond?.agree.symm⟩,
    toMinute?_apart_toFraction?.agree.symm⟩

end TimeWindow.Endpoint.Iso
