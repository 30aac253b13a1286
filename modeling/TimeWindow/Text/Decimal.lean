namespace TimeWindow.Text

def value (digits : List Char) : Nat := Nat.ofDigitChars 10 digits 0

def numeral (n : Nat) : List Char := Nat.toDigits 10 n

def padded (width n : Nat) : List Char := (numeral n).leftpad width '0'

def signed (n : Int) : List Char := if n < 0 then '-' :: numeral n.natAbs else numeral n.natAbs

def decimal (n : Int) : String := String.ofList (signed n)

def spanDigits (most : Nat) (s : List Char) : List Char × List Char :=
  let digits := (s.takeWhile Char.isDigit).take most
  (digits, s.drop digits.length)

@[simp] theorem value_numeral (n : Nat) : value (numeral n) = n := by
  simp [value, numeral]

@[simp] theorem value_padded (width n : Nat) : value (padded width n) = n := by
  simp only [value, padded, numeral, List.leftpad, Nat.ofDigitChars_append,
    Nat.ofDigitChars_replicate_zero, Nat.mul_zero, Nat.ofDigitChars_ten_toDigits]

theorem spanDigits_append (most : Nat) (s : List Char) :
    (spanDigits most s).1 ++ (spanDigits most s).2 = s := by
  have h : (spanDigits most s).1 <+: s := (List.take_prefix _ _).trans (List.takeWhile_prefix _)
  simpa [spanDigits] using (List.prefix_iff_eq_append.mp h)

end TimeWindow.Text
