import TimeWindow.Json.Numeral
import TimeWindow.Json.Quoted

/-! Stepping over a value that nobody asked for.  It need only be well formed, however deep it is nested:
the containers that are open stand on a stack. -/

namespace TimeWindow.Json

inductive Container
  | array
  | object
  deriving DecidableEq, Repr

def keyword : List Char → List Char → Except Fault (List Char)
  | [], s => .ok s
  | _ :: _, [] => .error .truncated
  | c :: word, d :: s => if c = d then keyword word s else .error .malformed

def skipColon (s : List Char) : Except Fault (List Char) :=
  match skipBlanks s with
  | [] => .error .truncated
  | c :: r => if c = ':' then .ok r else .error .malformed

def skipKey (s : List Char) : Except Fault (List Char) :=
  match skipBlanks s with
  | [] => .error .truncated
  | c :: r =>
    if c = '"' then
      match skipQuoted r with
      | .error f => .error f
      | .ok r => skipColon r
    else .error .malformed

/-- Steps over a value that is no container.  A number that breaks off is malformed here. -/
def skipScalar : List Char → Except Fault (List Char)
  | [] => .error .truncated
  | c :: s =>
    if c = '"' then skipQuoted s
    else if c = 'n' then keyword ['u', 'l', 'l'] s
    else if c = 't' then keyword ['r', 'u', 'e'] s
    else if c = 'f' then keyword ['a', 'l', 's', 'e'] s
    else if startsNumeral c then (numeral .malformed (c :: s)).map (·.2)
    else .error .malformed

theorem length_of_keyword {word s r : List Char} (h : keyword word s = .ok r) : r.length ≤ s.length := by
  fun_induction keyword word s with
  | case1 => cases h; exact Nat.le_refl _
  | case2 => cases h
  | case3 c word s ih =>
    have := ih h
    simp only [List.length_cons]
    omega
  | case4 => cases h

theorem length_of_skipColon {s r : List Char} (h : skipColon s = .ok r) : r.length < s.length := by
  unfold skipColon at h
  split at h
  · cases h
  · next e =>
    have := length_lt_of_skipBlanks e
    split at h <;> cases h
    exact this

theorem length_of_skipKey {s r : List Char} (h : skipKey s = .ok r) : r.length < s.length := by
  unfold skipKey at h
  split at h
  · cases h
  · next e =>
    have := length_lt_of_skipBlanks e
    split at h
    · split at h
      · cases h
      · next hq =>
        have := length_of_skipQuoted hq
        have := length_of_skipColon h
        omega
    · cases h

theorem length_of_skipScalar {s r : List Char} (h : skipScalar s = .ok r) : r.length < s.length := by
  unfold skipScalar at h
  split at h
  · cases h
  · next c s =>
    simp only [List.length_cons]
    split at h
    · have := length_of_skipQuoted h
      omega
    · split at h
      · have := length_of_keyword h
        omega
      · split at h
        · have := length_of_keyword h
          omega
        · split at h
          · have := length_of_keyword h
            omega
          · split at h
            · obtain ⟨⟨n, rest⟩, hn, rfl⟩ := map_eq_ok_iff.mp h
              have := length_of_numeral hn
              simpa using this
            · cases h

mutual

/-- Steps over one value, and then over the rest of the containers around it, innermost first. -/
def skipValue (around : List Container) (s : List Char) : Except Fault (List Char) :=
  match h : skipBlanks s with
  | [] => .error .truncated
  | c :: r =>
    have := length_lt_of_skipBlanks h
    if c = '[' then
      match h : skipBlanks r with
      | [] => .error .truncated
      | d :: q =>
        have := length_lt_of_skipBlanks h
        if d = ']' then skipAfter around q else skipValue (.array :: around) r
    else if c = '{' then
      match h : skipBlanks r with
      | [] => .error .truncated
      | d :: q =>
        have := length_lt_of_skipBlanks h
        if d = '}' then skipAfter around q else
          match h : skipKey r with
          | .error f => .error f
          | .ok q =>
            have := length_of_skipKey h
            skipValue (.object :: around) q
    else
      match hs : skipScalar (c :: r) with
      | .error f => .error f
      | .ok q =>
        have : q.length < r.length + 1 := length_of_skipScalar hs
        skipAfter around q
  termination_by s.length
  decreasing_by all_goals omega

def skipAfter (around : List Container) (s : List Char) : Except Fault (List Char) :=
  match around with
  | [] => .ok s
  | .array :: outer =>
    match h : skipBlanks s with
    | [] => .error .truncated
    | c :: r =>
      have := length_lt_of_skipBlanks h
      if c = ',' then skipValue (.array :: outer) r
      else if c = ']' then skipAfter outer r
      else .error .malformed
  | .object :: outer =>
    match h : skipBlanks s with
    | [] => .error .truncated
    | c :: r =>
      have := length_lt_of_skipBlanks h
      if c = ',' then
        match h : skipKey r with
        | .error f => .error f
        | .ok q =>
          have := length_of_skipKey h
          skipValue (.object :: outer) q
      else if c = '}' then skipAfter outer r
      else .error .malformed
  termination_by s.length
  decreasing_by all_goals omega

end

def skip (s : List Char) : Except Fault (List Char) := skipValue [] s

section

variable {around : List Container} {s q r : List Char} {c : Char}

theorem skipValue_ok_of_array (h : skipBlanks s = '[' :: q) (ok : skipValue around s = .ok r) :
    skipValue (.array :: around) q = .ok r ∨ ∃ t, skipBlanks q = ']' :: t ∧ skipAfter around t = .ok r := by
  rw [skipValue.eq_def] at ok
  grind

theorem skipValue_ok_of_object (h : skipBlanks s = '{' :: q) (ok : skipValue around s = .ok r) :
    (∃ t, skipBlanks q = '}' :: t ∧ skipAfter around t = .ok r) ∨
      ∃ t, skipKey q = .ok t ∧ skipValue (.object :: around) t = .ok r := by
  rw [skipValue.eq_def] at ok
  grind

theorem skipValue_ok_of_scalar (h : skipBlanks s = c :: q) (array : c ≠ '[') (object : c ≠ '{')
    (ok : skipValue around s = .ok r) : ∃ t, skipScalar (c :: q) = .ok t ∧ skipAfter around t = .ok r := by
  rw [skipValue.eq_def] at ok
  grind

theorem skipAfter_ok_of_array (ok : skipAfter (.array :: around) s = .ok r) :
    ∃ c t, skipBlanks s = c :: t ∧ (skipValue (.array :: around) t = .ok r ∨ skipAfter around t = .ok r) := by
  rw [skipAfter.eq_def] at ok
  grind

theorem skipAfter_ok_of_object (ok : skipAfter (.object :: around) s = .ok r) :
    ∃ c t, skipBlanks s = c :: t ∧
      ((∃ k, skipKey t = .ok k ∧ skipValue (.object :: around) k = .ok r) ∨ skipAfter around t = .ok r) := by
  rw [skipAfter.eq_def] at ok
  grind

/-- At `s` a value begins or has ended, and what is open around it ends at `r`. -/
def SkipsTo (s r : List Char) : Prop := ∃ around, skipValue around s = .ok r ∨ skipAfter around s = .ok r

theorem exists_shorter_of_skipValue (ok : skipValue around s = .ok r) : ∃ t, t.length < s.length ∧ SkipsTo t r := by
  cases h : skipBlanks s with
  | nil =>
    rw [skipValue.eq_def] at ok
    grind
  | cons c q =>
    have begun := length_lt_of_skipBlanks h
    by_cases array : c = '['
    · subst array
      obtain inner | ⟨t, close, after⟩ := skipValue_ok_of_array h ok
      · exact ⟨q, begun, _, .inl inner⟩
      · have := length_lt_of_skipBlanks close
        exact ⟨t, by omega, _, .inr after⟩
    · by_cases object : c = '{'
      · subst object
        obtain ⟨t, close, after⟩ | ⟨t, key, inner⟩ := skipValue_ok_of_object h ok
        · have := length_lt_of_skipBlanks close
          exact ⟨t, by omega, _, .inr after⟩
        · have := length_of_skipKey key
          exact ⟨t, by omega, _, .inl inner⟩
      · obtain ⟨t, scalar, after⟩ := skipValue_ok_of_scalar h array object ok
        have : t.length < q.length + 1 := length_of_skipScalar scalar
        exact ⟨t, by omega, _, .inr after⟩

theorem exists_shorter_of_skipAfter (ok : skipAfter around s = .ok r) :
    s = r ∨ ∃ t, t.length < s.length ∧ SkipsTo t r := by
  cases around with
  | nil =>
    rw [skipAfter] at ok
    exact .inl (Except.ok.inj ok)
  | cons container outer =>
    right
    cases container with
    | array =>
      obtain ⟨c, t, h, next | close⟩ := skipAfter_ok_of_array ok
      · exact ⟨t, length_lt_of_skipBlanks h, _, .inl next⟩
      · exact ⟨t, length_lt_of_skipBlanks h, _, .inr close⟩
    | object =>
      obtain ⟨c, t, h, ⟨k, key, next⟩ | close⟩ := skipAfter_ok_of_object ok
      · have := length_lt_of_skipBlanks h
        have := length_of_skipKey key
        exact ⟨k, by omega, _, .inl next⟩
      · exact ⟨t, length_lt_of_skipBlanks h, _, .inr close⟩

theorem SkipsTo.length_le {s r : List Char} (h : SkipsTo s r) : r.length ≤ s.length := by
  -- the containers around come and go, while the text only gets shorter
  obtain ⟨around, value | after⟩ := h
  · obtain ⟨t, shorter, rest⟩ := exists_shorter_of_skipValue value
    have := rest.length_le
    omega
  · obtain rfl | ⟨t, shorter, rest⟩ := exists_shorter_of_skipAfter after
    · exact Nat.le_refl _
    · have := rest.length_le
      omega
  termination_by s.length

theorem length_of_skip (ok : skip s = .ok r) : r.length < s.length := by
  obtain ⟨t, shorter, rest⟩ := exists_shorter_of_skipValue ok
  have := rest.length_le
  omega

end

end TimeWindow.Json
