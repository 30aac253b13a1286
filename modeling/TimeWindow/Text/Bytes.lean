namespace TimeWindow.Text

def byteSize : List Char → Nat
  | [] => 0
  | c :: s => c.utf8Size + byteSize s

/-- Cuts a text after `n` bytes; there is no cut beyond the end or inside a character. -/
def cut? : Nat → List Char → Option (List Char × List Char)
  | 0, s => some ([], s)
  | _ + 1, [] => none
  | n + 1, c :: s =>
    if c.utf8Size ≤ n + 1 then (cut? (n + 1 - c.utf8Size) s).map fun p => (c :: p.1, p.2) else none
  termination_by _ s => s

@[simp] theorem byteSize_nil : byteSize [] = 0 := rfl

@[simp] theorem byteSize_cons (c : Char) (s : List Char) :
    byteSize (c :: s) = c.utf8Size + byteSize s := rfl

@[simp] theorem byteSize_append (s t : List Char) : byteSize (s ++ t) = byteSize s + byteSize t := by
  induction s with
  | nil => simp
  | cons c s ih => rw [List.cons_append, byteSize_cons, byteSize_cons, ih, Nat.add_assoc]

@[simp] theorem byteSize_eq_zero_iff {s : List Char} : byteSize s = 0 ↔ s = [] := by
  cases s with
  | nil => simp
  | cons c s =>
    have := c.utf8Size_pos
    simp only [byteSize_cons, reduceCtorEq, iff_false]
    omega

theorem cons_eq_append_and_byteSize_iff {n : Nat} {c : Char} {s a b : List Char} :
    c :: s = a ++ b ∧ byteSize a = n + 1 ↔ ∃ t, a = c :: t ∧ s = t ++ b ∧ c.utf8Size + byteSize t = n + 1 := by
  cases a with
  | nil => simp
  | cons d t =>
    simp only [List.cons_append, List.cons.injEq, byteSize_cons]
    constructor
    · rintro ⟨⟨rfl, rest⟩, size⟩
      exact ⟨t, ⟨rfl, rfl⟩, rest, size⟩
    · rintro ⟨_, ⟨rfl, rfl⟩, rest, size⟩
      exact ⟨⟨rfl, rest⟩, size⟩

theorem cut?_eq_some_iff {n : Nat} {s a b : List Char} :
    cut? n s = some (a, b) ↔ s = a ++ b ∧ byteSize a = n := by
  fun_induction cut? n s generalizing a with
  | case1 s =>
    rw [byteSize_eq_zero_iff]
    constructor
    · rintro ⟨⟩
      exact ⟨rfl, rfl⟩
    · rintro ⟨rfl, rfl⟩
      rfl
  | case2 n =>
    simp only [reduceCtorEq, false_iff]
    rintro ⟨h, size⟩
    obtain ⟨rfl, -⟩ := List.append_eq_nil_iff.mp h.symm
    cases size
  | case3 n c s h ih =>
    simp only [cons_eq_append_and_byteSize_iff, Option.map_eq_some_iff, Prod.mk.injEq, Prod.exists]
    constructor
    · rintro ⟨t, _, cut, rfl, rfl⟩
      obtain ⟨rest, size⟩ := ih.mp cut
      exact ⟨t, rfl, rest, by omega⟩
    · rintro ⟨t, rfl, rest, size⟩
      exact ⟨t, b, ih.mpr ⟨rest, by omega⟩, rfl, rfl⟩
  | case4 n c s h =>
    simp only [cons_eq_append_and_byteSize_iff, reduceCtorEq, false_iff]
    rintro ⟨t, -, -, size⟩
    omega

theorem append_inj_of_byteSize_eq {a b c d : List Char} (h : a ++ b = c ++ d) (size : byteSize a = byteSize c) :
    a = c ∧ b = d := by
  have cut : cut? (byteSize c) (a ++ b) = some (a, b) := cut?_eq_some_iff.mpr ⟨rfl, size⟩
  rw [cut?_eq_some_iff.mpr ⟨h, rfl⟩] at cut
  cases cut
  exact ⟨rfl, rfl⟩

end TimeWindow.Text
