import TimeWindow.Json.Basic
import TimeWindow.Text.Decimal
import TimeWindow.Word

/-! Numbers.  Only an integer literal that a word can hold is read as an integer.  Any other number is of the
wrong type, unless it is too large even for a double: then the text itself is at fault. -/

namespace TimeWindow.Json

structure Numeral where
  negative : Bool
  whole : List Char
  fraction : Option (List Char)
  exponent : Option (Bool × List Char)
  deriving DecidableEq, Repr

def someDigits (missing : Fault) (s : List Char) : Result (List Char) :=
  match s with
  | [] => .error missing
  | c :: _ =>
    if c.isDigit then .ok (s.takeWhile Char.isDigit, s.dropWhile Char.isDigit) else .error .malformed

def wholeDigits (missing : Fault) (s : List Char) : Result (List Char) :=
  match s with
  | '0' :: r =>
    match r with
    | [] => .ok (['0'], r)
    | d :: _ => if d.isDigit then .error .malformed else .ok (['0'], r)
  | _ => someDigits missing s

def fractionDigits (missing : Fault) (s : List Char) : Result (Option (List Char)) :=
  match s with
  | '.' :: r => (someDigits missing r).map fun (digits, rest) => (some digits, rest)
  | _ => .ok (none, s)

def exponentSign : List Char → Bool × List Char
  | '-' :: s => (true, s)
  | '+' :: s => (false, s)
  | s => (false, s)

def exponentDigits (missing : Fault) (s : List Char) : Result (Option (Bool × List Char)) :=
  match s with
  | [] => .ok (none, s)
  | c :: r =>
    if c = 'e' ∨ c = 'E' then
      let signed := exponentSign r
      (someDigits missing signed.2).map fun (digits, rest) => (some (signed.1, digits), rest)
    else .ok (none, s)

def unsignedNumeral (missing : Fault) (negative : Bool) (s : List Char) :
    Except Fault (Numeral × List Char) := do
  let (whole, s) ← wholeDigits missing s
  let (fraction, s) ← fractionDigits missing s
  let (exponent, s) ← exponentDigits missing s
  return (⟨negative, whole, fraction, exponent⟩, s)

def numeral (missing : Fault) : List Char → Result Numeral
  | '-' :: s => unsignedNumeral missing true s
  | s => unsignedNumeral missing false s

def startsNumeral (c : Char) : Bool := c = '-' || c.isDigit

namespace Numeral

/-- The integer that is written without fraction or exponent; `-0` is none. -/
def integer? (n : Numeral) : Option Int :=
  match n.fraction, n.exponent with
  | none, none =>
    let v := Text.value n.whole
    if n.negative then (if v = 0 then none else some (-v)) else some v
  | _, _ => none

/-- The nearest natural number of at most 53 binary digits before its zeros, ties to even. -/
def nearestDouble (n : Nat) : Nat :=
  if n < Nat.pow 2 53 then n else
    let unit := Nat.pow 2 (n.log2 - 52)
    let q := n / unit
    let twice := 2 * (n % unit)
    (if unit < twice ∨ (twice = unit ∧ q % 2 = 1) then q + 1 else q) * unit

/-- Gathers digits into a 64-bit significand as long as they fit, and counts the digits that do not. -/
def gather (significand : Nat) : List Char → Nat × Nat
  | [] => (significand, 0)
  | d :: digits =>
    let next := significand * 10 + (d.toNat - 48)
    if next < Nat.pow 2 64 then gather next digits else (significand, digits.length + 1)

def scientific (n : Numeral) : Nat × Int :=
  let digits := n.fraction.getD []
  let (significand, raised) := gather 0 n.whole
  let (significand, dropped) := gather significand digits
  (significand, (raised : Int) - ((digits.length - dropped : Nat) : Int))

def isHuge (n : Numeral) : Bool :=
  let (significand, power) := n.scientific
  let (negative, digits) := n.exponent.getD (false, [])
  let exponent := Text.value digits
  if significand = 0 then false
  else if Nat.pow 2 31 ≤ exponent then !negative
  else
    let power := if negative then power - exponent else power + exponent
    if power < 0 then false
    else if 308 < power then true
    else Nat.pow 2 1024 - Nat.pow 2 970 ≤ nearestDouble significand * nearestDouble (Nat.pow 10 power.toNat)

end Numeral

theorem length_of_someDigits {missing : Fault} {s r ds : List Char}
    (h : someDigits missing s = .ok (ds, r)) : r.length < s.length := by
  unfold someDigits at h
  split at h
  · cases h
  · next c s =>
    split at h
    · next hc =>
      cases h
      simp only [List.dropWhile_cons, hc, if_true, List.length_cons]
      exact Nat.lt_succ_of_le (List.dropWhile_suffix _).length_le
    · cases h

theorem length_of_wholeDigits {missing : Fault} {s r ds : List Char}
    (h : wholeDigits missing s = .ok (ds, r)) : r.length < s.length := by
  unfold wholeDigits at h
  split at h
  · split at h
    · cases h; simp
    · split at h
      · cases h
      · cases h; simp
  · exact length_of_someDigits h

theorem length_of_fractionDigits {missing : Fault} {s r : List Char} {ds : Option (List Char)}
    (h : fractionDigits missing s = .ok (ds, r)) : r.length ≤ s.length := by
  unfold fractionDigits at h
  split at h
  · obtain ⟨⟨es, rest⟩, hd, e⟩ := map_eq_ok_iff.mp h
    cases e
    have := length_of_someDigits hd
    simp only [List.length_cons]
    omega
  · cases h; exact Nat.le_refl _

theorem length_exponentSign (s : List Char) : (exponentSign s).2.length ≤ s.length := by
  unfold exponentSign
  split <;> simp

theorem length_of_exponentDigits {missing : Fault} {s r : List Char} {ds : Option (Bool × List Char)}
    (h : exponentDigits missing s = .ok (ds, r)) : r.length ≤ s.length := by
  unfold exponentDigits at h
  split at h
  · cases h; exact Nat.le_refl _
  · next c s =>
    split at h
    · obtain ⟨⟨es, rest⟩, hd, e⟩ := map_eq_ok_iff.mp h
      cases e
      have := length_of_someDigits hd
      have := length_exponentSign s
      simp only [List.length_cons]
      omega
    · cases h; exact Nat.le_refl _

theorem length_of_unsignedNumeral {missing : Fault} {negative : Bool} {s r : List Char} {n : Numeral}
    (h : unsignedNumeral missing negative s = .ok (n, r)) : r.length < s.length := by
  simp only [unsignedNumeral, bind, Except.bind, pure, Except.pure] at h
  split at h
  · cases h
  · next hw =>
    have := length_of_wholeDigits hw
    split at h
    · cases h
    · next hf =>
      have := length_of_fractionDigits hf
      split at h
      · cases h
      · next he =>
        have := length_of_exponentDigits he
        cases h
        omega

theorem length_of_numeral {missing : Fault} {s r : List Char} {n : Numeral}
    (h : numeral missing s = .ok (n, r)) : r.length < s.length := by
  unfold numeral at h
  split at h
  · have := length_of_unsignedNumeral h
    simp only [List.length_cons]
    omega
  · exact length_of_unsignedNumeral h

end TimeWindow.Json
