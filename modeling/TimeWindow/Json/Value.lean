import TimeWindow.Json.Skip

namespace TimeWindow.Json

def faultOr {α : Type} : Except Fault α → Fault
  | .error f => f
  | .ok _ => .mistyped

def Numeral.fault (n : Numeral) : Fault := if n.isHuge then .malformed else .mistyped

/-- The fault of a value that begins a text and is not of the wanted type.  Containers are not looked into. -/
def wrongType : List Char → Fault
  | [] => .truncated
  | c :: s =>
    if c = '"' then faultOr (quoted s)
    else if c = '[' ∨ c = '{' then .mistyped
    else if startsNumeral c then
      match numeral .truncated (c :: s) with
      | .error f => f
      | .ok (n, _) => n.fault
    else faultOr (skipScalar (c :: s))

def integer (s : List Char) : Result Int64 :=
  match skipBlanks s with
  | [] => .error .truncated
  | c :: r =>
    if startsNumeral c then
      match numeral .truncated (c :: r) with
      | .error f => .error f
      | .ok (n, rest) =>
        match n.integer?.bind Word.ofInt? with
        | some w => .ok (w, rest)
        | none => .error n.fault
    else .error (wrongType (c :: r))

def optionalInteger (s : List Char) : Result (Option Int64) :=
  match skipBlanks s with
  | [] => .error .truncated
  | c :: r =>
    if c = 'n' then (keyword ['u', 'l', 'l'] r).map fun rest => (none, rest)
    else (integer s).map fun (w, rest) => (some w, rest)

def null (s : List Char) : Except Fault (List Char) :=
  match skipBlanks s with
  | [] => .error .truncated
  | c :: r => if c = 'n' then keyword ['u', 'l', 'l'] r else .error (wrongType (c :: r))

def decode {α : Type} (read : List Char → Result α) (text : String) : Except Fault α :=
  match read text.toList with
  | .error f => .error f
  | .ok (a, rest) => if (skipBlanks rest).isEmpty then .ok a else .error .malformed

theorem length_of_integer {s r : List Char} {w : Int64} (h : integer s = .ok (w, r)) :
    r.length < s.length := by
  unfold integer at h
  split at h
  · cases h
  · next c q e =>
    have hs := length_skipBlanks_le s
    rw [e] at hs
    split at h
    · split at h
      · cases h
      · next hn =>
        have := length_of_numeral hn
        split at h
        · cases h
          omega
        · cases h
    · cases h

theorem length_of_optionalInteger {s r : List Char} {w : Option Int64}
    (h : optionalInteger s = .ok (w, r)) : r.length < s.length := by
  unfold optionalInteger at h
  split at h
  · cases h
  · next e =>
    have := length_lt_of_skipBlanks e
    split at h
    · obtain ⟨q, hk, e⟩ := map_eq_ok_iff.mp h
      cases e
      have := length_of_keyword hk
      omega
    · obtain ⟨⟨v, q⟩, hi, e⟩ := map_eq_ok_iff.mp h
      cases e
      exact length_of_integer hi

end TimeWindow.Json
