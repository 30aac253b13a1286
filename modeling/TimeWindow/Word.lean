namespace TimeWindow.Word

def least : Int := -9223372036854775808

def greatest : Int := 9223372036854775807

def Fits (n : Int) : Prop := least ≤ n ∧ n ≤ greatest

instance (n : Int) : Decidable (Fits n) := inferInstanceAs (Decidable (_ ∧ _))

def clamp (n : Int) : Int64 := Int64.ofInt (max least (min n greatest))

def ofInt? (n : Int) : Option Int64 := if Fits n then some (Int64.ofInt n) else none

theorem fits_toInt (w : Int64) : Fits w.toInt := by
  have h := w.le_toInt
  have h' := w.toInt_lt
  simp only [Fits, least, greatest]
  omega

theorem toInt_ofInt_of_fits {n : Int} (h : Fits n) : (Int64.ofInt n).toInt = n := by
  simp only [Fits, least, greatest] at h
  exact Int64.toInt_ofInt_of_le (by omega) (by omega)

@[simp] theorem toInt_clamp (n : Int) : (clamp n).toInt = max least (min n greatest) :=
  toInt_ofInt_of_fits (by simp only [Fits, least, greatest]; omega)

theorem toInt_clamp_of_fits {n : Int} (h : Fits n) : (clamp n).toInt = n := by
  rw [toInt_clamp]
  simp only [Fits, least, greatest] at *
  omega

@[simp] theorem clamp_toInt (w : Int64) : clamp w.toInt = w :=
  Int64.toInt_inj.mp (toInt_clamp_of_fits (fits_toInt w))

theorem ofInt?_eq_some_iff {n : Int} {w : Int64} : ofInt? n = some w ↔ w.toInt = n := by
  simp only [ofInt?]
  split
  · next h =>
    constructor
    · intro e
      cases e
      exact toInt_ofInt_of_fits h
    · intro e
      subst e
      simp
  · next h =>
    constructor
    · intro e
      cases e
    · intro e
      exact absurd (e ▸ fits_toInt w) h

theorem ofInt?_eq_none_iff {n : Int} : ofInt? n = none ↔ ¬ Fits n := by
  simp [ofInt?]

end TimeWindow.Word
