import TimeWindow.Text.Bytes

namespace TimeWindow.Text

variable {s a b : String} {c : Char} {n : Nat}

theorem utf8ByteSize_ofList (s : List Char) : (String.ofList s).utf8ByteSize = byteSize s := by
  induction s with
  | nil => rfl
  | cons c s ih => rw [String.ofList_cons, String.utf8ByteSize_append, String.utf8ByteSize_singleton, ih, byteSize_cons]

@[simp] theorem byteSize_toList (s : String) : byteSize s.toList = s.utf8ByteSize := by
  rw [← utf8ByteSize_ofList, String.ofList_toList]

def split? (n : Nat) (s : String) : Option (String × String) :=
  if h : String.Pos.Raw.IsValid s ⟨n⟩ then
    some (⟨s.toByteArray.extract 0 n, h.isValidUTF8_extract_zero⟩,
      ⟨s.toByteArray.extract n s.utf8ByteSize, h.isValidUTF8_extract_utf8ByteSize⟩)
  else none

theorem split?_eq_some_iff : split? n s = some (a, b) ↔ s = a ++ b ∧ a.utf8ByteSize = n := by
  constructor
  · intro h
    unfold split? at h
    split at h
    · next valid =>
      have le : n ≤ s.utf8ByteSize := valid.le_utf8ByteSize
      cases h
      constructor
      · rw [← String.toByteArray_inj, String.toByteArray_append, ByteArray.extract_append_extract,
          Nat.zero_min, Nat.max_eq_right le, ← String.size_toByteArray, ByteArray.extract_zero_size]
      · rw [← String.size_toByteArray, ByteArray.size_extract, String.size_toByteArray, Nat.min_eq_left le,
          Nat.sub_zero]
    · cases h
  · rintro ⟨rfl, rfl⟩
    have valid : String.Pos.Raw.IsValid (a ++ b) ⟨a.utf8ByteSize⟩ :=
      String.Pos.Raw.isValid_iff_exists_append.mpr ⟨a, b, rfl, rfl⟩
    have front : (a ++ b).toByteArray.extract 0 a.utf8ByteSize = a.toByteArray := by
      rw [String.toByteArray_append, ByteArray.extract_append_eq_left String.size_toByteArray.symm]
    have rest : (a ++ b).toByteArray.extract a.utf8ByteSize (a ++ b).utf8ByteSize = b.toByteArray := by
      rw [String.toByteArray_append, String.utf8ByteSize_append]
      exact ByteArray.extract_append_eq_right String.size_toByteArray.symm (by simp only [String.size_toByteArray])
    rw [split?, dif_pos valid, Option.some_inj, Prod.mk.injEq, ← String.toByteArray_inj, ← String.toByteArray_inj]
    exact ⟨front, rest⟩

theorem split?_isSome_iff :
    (split? n s).isSome ↔
      n = s.utf8ByteSize ∨ ∃ h : (⟨n⟩ : String.Pos.Raw) < s.rawEndPos, (s.getUTF8Byte ⟨n⟩ h).IsUTF8FirstByte := by
  have atEnd : (⟨n⟩ : String.Pos.Raw) = s.rawEndPos ↔ n = s.utf8ByteSize := String.Pos.Raw.ext_iff
  rw [← atEnd, ← String.Pos.Raw.isValid_iff_isUTF8FirstByte, split?]
  split
  · next valid => simp [valid]
  · next invalid => simp [invalid]

example : split? 2 "aé" = none ∧ split? 1 "aé" = some ("a", "é") ∧ split? 4 "aé" = none := by decide +kernel

theorem cut?_toList (n : Nat) (s : String) :
    cut? n s.toList = (split? n s).map fun p => (p.1.toList, p.2.toList) := by
  apply Option.ext
  rintro ⟨front, rest⟩
  simp only [Option.map_eq_some_iff, Prod.exists, Prod.mk.injEq, cut?_eq_some_iff, split?_eq_some_iff]
  constructor
  · rintro ⟨whole, rfl⟩
    have joined : s = String.ofList front ++ String.ofList rest := by
      rw [← String.ofList_append, ← whole, String.ofList_toList]
    exact ⟨_, _, ⟨joined, utf8ByteSize_ofList front⟩, String.toList_ofList, String.toList_ofList⟩
  · rintro ⟨a, b, ⟨rfl, rfl⟩, rfl, rfl⟩
    exact ⟨String.toList_append, byteSize_toList a⟩

end TimeWindow.Text
