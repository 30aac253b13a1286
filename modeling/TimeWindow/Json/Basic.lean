namespace TimeWindow.Json

inductive Fault
  | malformed
  | mistyped
  | truncated
  deriving DecidableEq, Repr

abbrev Result (α : Type) := Except Fault (α × List Char)

def isBlank (c : Char) : Bool := c = ' ' || c = '\t' || c = '\n' || c = '\r'

def skipBlanks (s : List Char) : List Char := s.dropWhile isBlank

theorem length_skipBlanks_le (s : List Char) : (skipBlanks s).length ≤ s.length :=
  (List.dropWhile_suffix _).length_le

theorem length_lt_of_skipBlanks {s r : List Char} {c : Char} (h : skipBlanks s = c :: r) :
    r.length < s.length := by
  have := length_skipBlanks_le s
  rw [h] at this
  exact this

theorem map_eq_ok_iff {α β : Type} {x : Except Fault α} {f : α → β} {b : β} :
    x.map f = .ok b ↔ ∃ a, x = .ok a ∧ f a = b := by
  cases x <;> simp [Except.map]

end TimeWindow.Json
