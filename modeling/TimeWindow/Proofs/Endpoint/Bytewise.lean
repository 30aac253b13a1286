import Mathlib.Data.Option.Basic
import TimeWindow.Proofs.Endpoint.Range
import TimeWindow.Proofs.Text.Bytes

/-! Endpoints read by bytes, with operations that do not have a result everywhere: a size taken from another, a cut
behind a byte, the negative of a word, an instant in a word.  Whatever the text, none of them is asked for a result
that it does not have, and what is read is what is read by characters. -/

namespace TimeWindow.Endpoint.Bytewise

open Calendar Text

inductive Undefined
  | difference
  | cut
  | negative
  | instant
  deriving DecidableEq, Repr

def minus (m n : Nat) : Except Undefined Nat := if n ≤ m then .ok (m - n) else .error .difference

def front (n : Nat) (s : String) : Except Undefined String :=
  match split? n s with
  | some (a, _) => .ok a
  | none => .error .cut

def negate (t : Millis) : Except Undefined Millis := if t = Int64.minValue then .error .negative else .ok (-t)

def instant (m : Moment) : Except Undefined Millis :=
  match Word.ofInt? m.epochMillis with
  | some t => .ok t
  | none => .error .instant

def length? (digits : List Char) (unit : Char) : Option Millis := do
  let number ← Word.ofInt? (value digits)
  let millis ← unitMillis? unit
  Word.ofInt? (number.toInt * millis)

/-- What the text behind a hyphen adds to the present.  Its last character is the unit, and the bytes before that are
the number. -/
def change (s : String) : Except Undefined (Option Millis) :=
  match s.toList.getLast? with
  | none => .ok none
  | some unit => do
    let size ← minus s.utf8ByteSize unit.utf8Size
    let digits := (← front size s).toList
    if digits ≠ [] ∧ digits.all Char.isDigit then (length? digits unit).mapM negate else return none

def changeOf (s : String) : Except Undefined (Option Millis) :=
  match s.toList with
  | '-' :: rest => change (String.ofList rest)
  | _ => .ok none

def read (input : String) (clock : Clock) : Except Undefined (Except Error Millis × Clock) := do
  let s := String.ofList (trim input.toList)
  match epoch? s.toList with
  | some t => return (.ok t, clock)
  | none =>
    match ← changeOf s with
    | some change =>
      match Word.ofInt? (clock.now.toInt + change.toInt) with
      | some t => return (.ok t, clock.tick)
      | none => return (.error ⟨s, .overflow⟩, clock.tick)
    | none =>
      match iso? s.toList <|> dateTime? s.toList with
      | some m => return (.ok (← instant m), clock)
      | none => return (.error ⟨s, .unrecognized⟩, clock)

variable {s input : String} {u : Char} {t : Millis} {m : Moment} {digits : List Char}

theorem eq_append_last (h : s.toList.getLast? = some u) :
    s = String.ofList s.toList.dropLast ++ String.singleton u := by
  obtain ⟨digits, whole⟩ := List.getLast?_eq_some_iff.mp h
  rw [← String.toList_inj, String.toList_append, String.toList_ofList, String.toList_singleton, whole,
    List.dropLast_concat]

theorem utf8ByteSize_eq_of_last (h : s.toList.getLast? = some u) :
    s.utf8ByteSize = (String.ofList s.toList.dropLast).utf8ByteSize + u.utf8Size := by
  rw [← String.utf8ByteSize_singleton, ← String.utf8ByteSize_append, ← eq_append_last h]

theorem minus_last (h : s.toList.getLast? = some u) :
    minus s.utf8ByteSize u.utf8Size = .ok (s.utf8ByteSize - u.utf8Size) :=
  if_pos (utf8ByteSize_eq_of_last h ▸ Nat.le_add_left _ _)

theorem split?_last (h : s.toList.getLast? = some u) :
    split? (s.utf8ByteSize - u.utf8Size) s = some (String.ofList s.toList.dropLast, String.singleton u) := by
  rw [utf8ByteSize_eq_of_last h, Nat.add_sub_cancel]
  exact split?_eq_some_iff.mpr ⟨eq_append_last h, rfl⟩

theorem front_last (h : s.toList.getLast? = some u) :
    front (s.utf8ByteSize - u.utf8Size) s = .ok (String.ofList s.toList.dropLast) := by
  rw [front, split?_last h]

theorem boundary_of_last (h : s.toList.getLast? = some u) :
    ∃ hn : (⟨s.utf8ByteSize - u.utf8Size⟩ : String.Pos.Raw) < s.rawEndPos,
      (s.getUTF8Byte ⟨s.utf8ByteSize - u.utf8Size⟩ hn).IsUTF8FirstByte := by
  have size := utf8ByteSize_eq_of_last h
  have positive := u.utf8Size_pos
  have cut : (split? (s.utf8ByteSize - u.utf8Size) s).isSome := by
    rw [split?_last h]
    rfl
  exact (split?_isSome_iff.mp cut).resolve_left (by omega)

theorem change_eq (h : s.toList.getLast? = some u) :
    change s = if s.toList.dropLast ≠ [] ∧ s.toList.dropLast.all Char.isDigit then
      (length? s.toList.dropLast u).mapM negate else .ok none := by
  rw [change, h]
  simp only [minus_last h, front_last h, bind, Except.bind, String.toList_ofList]
  rfl

theorem length?_eq (digits : List Char) (u : Char) :
    length? digits u = (unitMillis? u).bind fun millis => Word.ofInt? (value digits * millis : Nat) := by
  cases hu : unitMillis? u with
  | none => cases hn : Word.ofInt? (value digits) <;> simp [length?, hn, hu]
  | some millis =>
    cases hn : Word.ofInt? (value digits) with
    | none =>
      -- no unit is shorter than a millisecond, so that the length passes the words as well
      have positive := one_le_of_mem_units (unitMillis?_eq_some_iff.mp hu)
      have longer := Nat.le_mul_of_pos_right (value digits) positive
      have unheld : ¬ Word.Fits (value digits * millis : Nat) := by
        rw [Word.ofInt?_eq_none_iff] at hn
        simp only [Word.Fits, Word.least] at *
        omega
      rw [Option.bind_some, Word.ofInt?_eq_none_iff.mpr unheld]
      simp [length?, hn]
    | some number =>
      have number_eq := Word.ofInt?_eq_some_iff.mp hn
      simp [length?, hn, hu, number_eq]

theorem offset?_of_last (h : digits.getLast? = some u) :
    offset? ('-' :: digits) =
      if digits.dropLast ≠ [] ∧ digits.dropLast.all Char.isDigit then length? digits.dropLast u else none := by
  rw [length?_eq]
  cases hu : unitMillis? u <;> simp [offset?, h, hu]

theorem negate_of_nonneg (h : 0 ≤ t.toInt) : negate t = .ok (-t) := by
  refine if_neg ?_
  rintro rfl
  exact absurd h (by decide)

theorem toInt_neg_of_nonneg (h : 0 ≤ t.toInt) : (-t).toInt = -t.toInt := by
  have held := Word.fits_toInt t
  simp only [Word.Fits, Word.least, Word.greatest] at held
  rw [Int64.toInt_neg, Int.bmod_eq_of_le (by omega) (by omega)]

theorem nonneg_of_offset? {s : List Char} (h : offset? s = some t) : 0 ≤ t.toInt := by
  obtain ⟨n, unit, written⟩ := exists_writtenAgo_of_offset? h
  rw [offset?_of_writtenAgo written, Word.ofInt?_eq_some_iff] at h
  omega

theorem mapM_negate_offset? (s : List Char) : (offset? s).mapM negate = .ok ((offset? s).map (- ·)) := by
  cases h : offset? s with
  | none => rfl
  | some t =>
    rw [Option.mapM_some, negate_of_nonneg (nonneg_of_offset? h)]
    rfl

theorem change_ofList (rest : List Char) : change (String.ofList rest) = .ok ((offset? ('-' :: rest)).map (- ·)) := by
  rw [← mapM_negate_offset?]
  cases hu : rest.getLast? with
  | none =>
    rw [List.getLast?_eq_none_iff] at hu
    subst hu
    rfl
  | some u =>
    rw [change_eq (by rwa [String.toList_ofList]), offset?_of_last hu, String.toList_ofList]
    split <;> rfl

theorem changeOf_eq (s : String) : changeOf s = .ok ((offset? s.toList).map (- ·)) := by
  unfold changeOf
  split
  · next rest hs => rw [hs, change_ofList]
  · next hs =>
    have other : offset? s.toList = none := by
      unfold offset?
      split
      · next rest hr => exact absurd hr (hs rest)
      · rfl
    rw [other]
    rfl

theorem ofInt?_epochMillis (h : m.InRange) : Word.ofInt? m.epochMillis = some (Int64.ofInt m.epochMillis) := by
  have value := Word.toInt_ofInt_of_fits h.fits
  exact Word.ofInt?_eq_some_iff.mpr value

theorem instant_of_inRange (h : m.InRange) : instant m = .ok (Int64.ofInt m.epochMillis) := by
  unfold instant
  simp only [ofInt?_epochMillis h]

theorem date_cases {s : List Char} (h : (iso? s <|> dateTime? s) = some m) :
    ofText? s = some (ofMoment m) ∧ m.InRange := by
  obtain hm | ⟨-, hm⟩ := (Option.orElse_eq_some _ _ _).mp h
  · exact ⟨ofText?_eq_some_iff.mpr (.inr (.inr (.inl ⟨m, hm, rfl⟩))), (iso?_inRange hm).2⟩
  · exact ⟨ofText?_eq_some_iff.mpr (.inr (.inr (.inr ⟨m, hm, rfl⟩))), (dateTime?_inRange hm).2⟩

theorem read_eq (input : String) (clock : Clock) : read input clock = .ok (Endpoint.read input clock) := by
  simp only [read, String.toList_ofList, changeOf_eq]
  cases epoch : epoch? (trim input.toList) with
  | some t =>
    rw [read_of_fixed (ofText?_eq_some_iff.mpr (.inl ⟨t, epoch, rfl⟩))]
    rfl
  | none =>
    cases offset : offset? (trim input.toList) with
    | some t =>
      have sum : clock.now.toInt + (-t).toInt = clock.now.toInt - t.toInt := by
        rw [toInt_neg_of_nonneg (nonneg_of_offset? offset), Int.sub_eq_add_neg]
      simp only [Endpoint.read, readBy, ofText?_eq_ago_iff.mpr offset, Option.map_some, bind, Except.bind, sum]
      cases Word.ofInt? (clock.now.toInt - t.toInt) <;> rfl
    | none =>
      simp only [Option.map_none, bind, Except.bind]
      cases date : (iso? (trim input.toList) <|> dateTime? (trim input.toList)) with
      | some m =>
        obtain ⟨named, held⟩ := date_cases date
        simp only [instant_of_inRange held, read_of_fixed named]
        rfl
      | none =>
        have named : ofText? (trim input.toList) = none := by
          obtain ⟨iso, dateTime⟩ := (Option.orElse_eq_none _ _).mp date
          simp [ofText?, epoch, offset, iso, dateTime]
        rw [read_of_none named]
        rfl

theorem boundary_of_dateTime? (h : (dateTime? s.toList).isSome) :
    10 < s.utf8ByteSize ∧ ∃ hn : (⟨10⟩ : String.Pos.Raw) < s.rawEndPos, (s.getUTF8Byte ⟨10⟩ hn).IsUTF8FirstByte := by
  obtain ⟨m, hm⟩ := Option.isSome_iff_exists.mp h
  obtain ⟨d, t, -, -, whole, size, -⟩ := dateTime?_eq_some_iff.mp hm
  have longer : 10 < s.utf8ByteSize := by
    have colon : ':'.utf8Size = 1 := rfl
    rw [← byteSize_toList, whole, byteSize_append, byteSize_cons, size, colon]
    omega
  have cut : (split? 10 s).isSome := by
    rw [← Option.isSome_map (f := fun p : String × String => (p.1.toList, p.2.toList)), ← cut?_toList,
      cut?_eq_some_iff.mpr ⟨whole, size⟩]
    rfl
  exact ⟨longer, (split?_isSome_iff.mp cut).resolve_left longer.ne⟩

/-- Whatever the text, the bytes before its last character are the other characters; the negative of an offset is a
word; and without an eleventh byte, or with one inside a character, there is no date with a colon behind it.  So every
operation that reading by bytes comes to has its result, and what is read is what is read by characters. -/
theorem every_operation_has_a_result :
    (∀ (s : String) (u : Char), s.toList.getLast? = some u →
      minus s.utf8ByteSize u.utf8Size = .ok (s.utf8ByteSize - u.utf8Size) ∧
      (∃ hn : (⟨s.utf8ByteSize - u.utf8Size⟩ : String.Pos.Raw) < s.rawEndPos,
        (s.getUTF8Byte ⟨s.utf8ByteSize - u.utf8Size⟩ hn).IsUTF8FirstByte) ∧
      front (s.utf8ByteSize - u.utf8Size) s = .ok (String.ofList s.toList.dropLast)) ∧
    (∀ s t, offset? s = some t → negate t = .ok (-t) ∧ (-t).toInt = -t.toInt) ∧
    (∀ s : String, (s.utf8ByteSize ≤ 10 ∨
        ∃ hn : (⟨10⟩ : String.Pos.Raw) < s.rawEndPos, ¬ (s.getUTF8Byte ⟨10⟩ hn).IsUTF8FirstByte) →
      dateTime? s.toList = none) ∧
    (∀ n s, cut? n s.toList = (split? n s).map fun p => (p.1.toList, p.2.toList)) ∧
    ∀ input clock, read input clock = .ok (Endpoint.read input clock) := by
  refine ⟨fun s u h => ⟨minus_last h, boundary_of_last h, front_last h⟩, ?_, ?_, cut?_toList, read_eq⟩
  · intro s t h
    exact ⟨negate_of_nonneg (nonneg_of_offset? h), toInt_neg_of_nonneg (nonneg_of_offset? h)⟩
  · intro s h
    rw [← Option.not_isSome_iff_eq_none]
    intro some
    obtain ⟨longer, _, first⟩ := boundary_of_dateTime? some
    obtain short | ⟨_, inside⟩ := h
    · omega
    · exact inside first

theorem wide_characters_are_not_cut :
    (minus 5 3 = .ok 2 ∧ front 2 "15€" = .ok "15") ∧
      negate 9223372036854775000 = .ok (-9223372036854775000) ∧
      front 10 "2026-02-0é:07:00" = .error .cut ∧
      dateTime? "2026-02-0é:07:00".toList = none ∧
      read "2026-02-0é:07:00" (.fixed 0) = .ok (Endpoint.read "2026-02-0é:07:00" (.fixed 0)) := by
  obtain ⟨last, offset, inside, -, total⟩ := every_operation_has_a_result
  have unit : "15€".toList.getLast? = some '€' := by decide
  have longest : offset? "-9223372036854775s".toList = some 9223372036854775000 := by decide
  have across : ∃ hn : (⟨10⟩ : String.Pos.Raw) < "2026-02-0é:07:00".rawEndPos,
      ¬ ("2026-02-0é:07:00".getUTF8Byte ⟨10⟩ hn).IsUTF8FirstByte := by decide +kernel
  exact ⟨⟨(last _ _ unit).1, (last _ _ unit).2.2⟩, (offset _ _ longest).1, by decide +kernel, inside _ (.inr across),
    total _ _⟩

end TimeWindow.Endpoint.Bytewise
