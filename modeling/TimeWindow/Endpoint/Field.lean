import TimeWindow.Calendar
import TimeWindow.Text.Blank
import TimeWindow.Text.Decimal

namespace TimeWindow.Endpoint

open Calendar Text

abbrev Reader (α : Type) := List Char → Option (α × List Char)

def Reader.whole (read : Reader α) (s : List Char) : Option α :=
  match read s with
  | some (a, []) => some a
  | _ => none

def skip? (c : Char) : List Char → Option (List Char)
  | [] => none
  | d :: s => if d = c then some s else none

def digits? (count : Nat) : Reader Nat := fun s =>
  let (digits, rest) := spanDigits count s
  if digits.length = count then some (value digits, rest) else none

def upTo? (most : Nat) : Reader Nat := fun s =>
  let (digits, rest) := spanDigits most s
  if digits.isEmpty then none else some (value digits, rest)

def number? : Reader Nat := fun s => upTo? 2 (trimStart s)

/-- Up to four digits after any white space; after a sign, any number of them. -/
def year? : Reader Int := fun s =>
  match trimStart s with
  | '+' :: r => (upTo? r.length r).map fun (n, rest) => (n, rest)
  | '-' :: r => (upTo? r.length r).map fun (n, rest) => (-n, rest)
  | r => (upTo? 4 r).map fun (n, rest) => (n, rest)

def fractionMillis (digits : List Char) : Nat := value ((digits ++ ['0', '0']).take 3)

def fraction? : Reader Nat := fun s =>
  match s with
  | '.' :: r =>
    let digits := r.takeWhile Char.isDigit
    if digits.isEmpty then none else some (fractionMillis digits, r.dropWhile Char.isDigit)
  | _ => some (0, s)

def date? : Reader Date := fun s => do
  let (year, s) ← year? s
  let s ← skip? '-' s
  let (month, s) ← number? s
  let s ← skip? '-' s
  let (day, s) ← number? s
  return (⟨year, month, day⟩, s)

def hourMinute? : Reader TimeOfDay := fun s => do
  let (hour, s) ← number? s
  let s ← skip? ':' s
  let (minute, s) ← number? s
  return (⟨hour, minute, 0, 0⟩, s)

def hourMinuteSecond? : Reader TimeOfDay := fun s => do
  let (t, s) ← hourMinute? s
  let s ← skip? ':' s
  let (second, s) ← number? s
  return ({ t with second }, s)

def hourMinuteFraction? : Reader TimeOfDay := fun s => do
  let (t, s) ← hourMinuteSecond? s
  let (milli, s) ← fraction? s
  return ({ t with milli }, s)

def strictDate? : Reader Date := fun s => do
  let (year, s) ← digits? 4 s
  let s ← skip? '-' s
  let (month, s) ← digits? 2 s
  let s ← skip? '-' s
  let (day, s) ← digits? 2 s
  return (⟨year, month, day⟩, s)

def strictTime? : Reader TimeOfDay := fun s => do
  let (hour, s) ← digits? 2 s
  let s ← skip? ':' s
  let (minute, s) ← digits? 2 s
  let s ← skip? ':' s
  let (second, s) ← digits? 2 s
  let (milli, s) ← fraction? s
  return (⟨hour, minute, second, milli⟩, s)

def ahead? : Reader Int := fun s => do
  let (hours, s) ← digits? 2 s
  let s ← skip? ':' s
  let (minutes, s) ← digits? 2 s
  if minutes ≤ 59 ∧ hours ≤ 23 then return ((hours * 60 + minutes : Nat), s) else none

/-- The minutes that a place is ahead of UTC; the minus sign may be the hyphen or U+2212. -/
def zone? : Reader Int
  | 'Z' :: s => some (0, s)
  | 'z' :: s => some (0, s)
  | '+' :: s => ahead? s
  | '-' :: s => (ahead? s).map fun (n, rest) => (-n, rest)
  | '\u2212' :: s => (ahead? s).map fun (n, rest) => (-n, rest)
  | _ => none

end TimeWindow.Endpoint
