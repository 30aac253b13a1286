import TimeWindow.Json.Basic
import TimeWindow.Text.Bytes

/-! Strings.  A string that is read must make sense, so that surrogate escapes come in pairs; a string that
is skipped need only be well formed. -/

namespace TimeWindow.Json

def hexDigit? (c : Char) : Option Nat :=
  if c.isDigit then some (c.toNat - 48)
  else if 'a' ≤ c ∧ c ≤ 'f' then some (c.toNat - 87)
  else if 'A' ≤ c ∧ c ≤ 'F' then some (c.toNat - 55)
  else none

/-- Four hexadecimal digits.  A text of fewer than four bytes ends too early, whatever it holds. -/
def hexUnit : List Char → Result Nat
  | a :: b :: c :: d :: r =>
    match hexDigit? a, hexDigit? b, hexDigit? c, hexDigit? d with
    | some a, some b, some c, some d => .ok (((a * 16 + b) * 16 + c) * 16 + d, r)
    | _, _, _, _ => .error .malformed
  | s => .error (if Text.byteSize s < 4 then .truncated else .malformed)

def escaped? : Char → Option Char
  | '"' => some '"'
  | '\\' => some '\\'
  | '/' => some '/'
  | 'b' => some '\x08'
  | 'f' => some '\x0c'
  | 'n' => some '\n'
  | 'r' => some '\r'
  | 't' => some '\t'
  | _ => none

def isHighSurrogate (n : Nat) : Bool := 0xD800 ≤ n && n ≤ 0xDBFF

def isLowSurrogate (n : Nat) : Bool := 0xDC00 ≤ n && n ≤ 0xDFFF

def lowSurrogate : List Char → Result Nat
  | [] => .error .truncated
  | '\\' :: [] => .error .truncated
  | '\\' :: 'u' :: r =>
    match hexUnit r with
    | .error f => .error f
    | .ok (n, r) => if isLowSurrogate n then .ok (n, r) else .error .malformed
  | _ => .error .malformed

def unicodeEscape (s : List Char) : Result Char :=
  match hexUnit s with
  | .error f => .error f
  | .ok (n, r) =>
    if isLowSurrogate n then .error .malformed
    else if isHighSurrogate n then
      match lowSurrogate r with
      | .error f => .error f
      | .ok (low, r) => .ok (Char.ofNat (0x10000 + (n - 0xD800) * 0x400 + (low - 0xDC00)), r)
    else .ok (Char.ofNat n, r)

def escape : List Char → Result Char
  | [] => .error .truncated
  | c :: r =>
    if c = 'u' then unicodeEscape r else
      match escaped? c with
      | some c => .ok (c, r)
      | none => .error .malformed

def skipEscape : List Char → Except Fault (List Char)
  | [] => .error .truncated
  | c :: r =>
    if c = 'u' then (hexUnit r).map (·.2) else
      match escaped? c with
      | some _ => .ok r
      | none => .error .malformed

def isControl (c : Char) : Bool := c.toNat < 0x20

theorem length_of_hexUnit {s r : List Char} {n : Nat} (h : hexUnit s = .ok (n, r)) :
    r.length < s.length := by
  unfold hexUnit at h
  split at h
  · split at h
    · cases h
      simp only [List.length_cons]
      omega
    · cases h
  · cases h

theorem length_of_lowSurrogate {s r : List Char} {n : Nat} (h : lowSurrogate s = .ok (n, r)) :
    r.length < s.length := by
  unfold lowSurrogate at h
  split at h
  · cases h
  · cases h
  · split at h
    · cases h
    · next hu =>
      have := length_of_hexUnit hu
      split at h
      · cases h
        simp only [List.length_cons]
        omega
      · cases h
  · cases h

theorem length_of_unicodeEscape {s r : List Char} {c : Char} (h : unicodeEscape s = .ok (c, r)) :
    r.length < s.length := by
  unfold unicodeEscape at h
  split at h
  · cases h
  · next unit =>
    have := length_of_hexUnit unit
    split at h
    · cases h
    · split at h
      · split at h
        · cases h
        · next low =>
          have := length_of_lowSurrogate low
          obtain ⟨-, rfl⟩ := Prod.mk.inj (Except.ok.inj h)
          omega
      · cases h
        assumption

theorem length_of_escape {s r : List Char} {c : Char} (h : escape s = .ok (c, r)) :
    r.length < s.length := by
  unfold escape at h
  split at h
  · cases h
  · split at h
    · exact Nat.lt_succ_of_lt (length_of_unicodeEscape h)
    · split at h
      · cases h
        exact Nat.lt_succ_self _
      · cases h

theorem length_of_skipEscape {s r : List Char} (h : skipEscape s = .ok r) : r.length < s.length := by
  unfold skipEscape at h
  split at h
  · cases h
  · split at h
    · obtain ⟨p, hu, rfl⟩ := map_eq_ok_iff.mp h
      have := length_of_hexUnit hu
      simp only [List.length_cons]
      omega
    · split at h
      · cases h
        simp
      · cases h

def quoted (s : List Char) : Result (List Char) :=
  match s with
  | [] => .error .truncated
  | c :: r =>
    if c = '"' then .ok ([], r)
    else if c = '\\' then
      match h : escape r with
      | .error f => .error f
      | .ok (d, q) =>
        have := length_of_escape h
        (quoted q).map fun (cs, rest) => (d :: cs, rest)
    else if isControl c then .error .malformed
    else (quoted r).map fun (cs, rest) => (c :: cs, rest)
  termination_by s.length

def skipQuoted (s : List Char) : Except Fault (List Char) :=
  match s with
  | [] => .error .truncated
  | c :: r =>
    if c = '"' then .ok r
    else if c = '\\' then
      match h : skipEscape r with
      | .error f => .error f
      | .ok q =>
        have := length_of_skipEscape h
        skipQuoted q
    else if isControl c then .error .malformed
    else skipQuoted r
  termination_by s.length

theorem length_of_quoted {s r cs : List Char} (h : quoted s = .ok (cs, r)) : r.length < s.length := by
  fun_induction quoted s generalizing cs with
  | case1 => cases h
  | case2 => cases h; simp
  | case3 => cases h
  | case4 s d q he hl _ ih =>
    obtain ⟨⟨ds, rest⟩, hr, e⟩ := map_eq_ok_iff.mp h
    cases e
    have := ih hr
    simp only [List.length_cons]
    omega
  | case5 => cases h
  | case6 c s _ _ _ ih =>
    obtain ⟨⟨ds, rest⟩, hr, e⟩ := map_eq_ok_iff.mp h
    cases e
    have := ih hr
    simp only [List.length_cons]
    omega

theorem length_of_skipQuoted {s r : List Char} (h : skipQuoted s = .ok r) : r.length < s.length := by
  fun_induction skipQuoted s with
  | case1 => cases h
  | case2 => cases h; simp
  | case3 => cases h
  | case4 s _ q _ _ ih =>
    have := ih h
    simp only [List.length_cons]
    omega
  | case5 => cases h
  | case6 c s _ _ _ ih =>
    have := ih h
    simp only [List.length_cons]
    omega

end TimeWindow.Json
