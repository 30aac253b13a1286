import TimeWindow.Json.Value

namespace TimeWindow.Json

structure PairShape (α : Type) where
  first : List Char
  second : List Char
  value : List Char → Result α
  /-- What an object means that leaves a field out. -/
  missing : Option α
  length_of_value : ∀ {s r a}, value s = .ok (a, r) → r.length < s.length

namespace PairShape

variable {α : Type}

abbrev Met (α : Type) := Option α × Option α

/-- Reads one member from behind the opening quote of its key.  A field that was met before is refused
as soon as its key is read. -/
def member (p : PairShape α) (met : Met α) (s : List Char) : Result (Met α) :=
  match quoted s with
  | .error f => .error f
  | .ok (key, r) =>
    if key = p.first then
      if met.1.isSome then .error .mistyped else
        match skipColon r with
        | .error f => .error f
        | .ok r => (p.value r).map fun (a, rest) => ((some a, met.2), rest)
    else if key = p.second then
      if met.2.isSome then .error .mistyped else
        match skipColon r with
        | .error f => .error f
        | .ok r => (p.value r).map fun (a, rest) => ((met.1, some a), rest)
    else
      match skipColon r with
      | .error f => .error f
      | .ok r => (skip r).map fun rest => (met, rest)

def nextMember (s : List Char) : Result Bool :=
  match skipBlanks s with
  | [] => .error .truncated
  | c :: r =>
    if c = '}' then .ok (false, r)
    else if c = ',' then
      match skipBlanks r with
      | [] => .error .truncated
      | c :: r => if c = '"' then .ok (true, r) else .error .malformed
    else .error .malformed

theorem length_of_field {p : PairShape α} (set : α → Met α) {met : Met α} {s r : List Char}
    (h : (match skipColon s with
      | .error f => Except.error f
      | .ok r => (p.value r).map fun (x : α × List Char) => (set x.1, x.2)) = .ok (met, r)) : r.length < s.length := by
  split at h
  · cases h
  · next colon =>
    have := length_of_skipColon colon
    obtain ⟨⟨a, q⟩, value, e⟩ := map_eq_ok_iff.mp h
    obtain rfl : q = r := congrArg Prod.snd e
    have := p.length_of_value value
    omega

theorem length_of_other {met met' : Met α} {s r : List Char}
    (h : (match skipColon s with
      | .error f => Except.error f
      | .ok r => (skip r).map fun rest => (met, rest)) = .ok (met', r)) : r.length < s.length := by
  split at h
  · cases h
  · next colon =>
    have := length_of_skipColon colon
    obtain ⟨q, skipped, e⟩ := map_eq_ok_iff.mp h
    cases e
    have := length_of_skip skipped
    omega

theorem length_of_member {p : PairShape α} {met met' : Met α} {s r : List Char}
    (h : p.member met s = .ok (met', r)) : r.length < s.length := by
  unfold member at h
  split at h
  · cases h
  · next key q quoted =>
    have := length_of_quoted quoted
    suffices r.length < q.length by omega
    by_cases first : key = p.first
    · rw [if_pos first] at h
      split at h
      · cases h
      · exact length_of_field (fun a => (some a, met.2)) h
    · rw [if_neg first] at h
      by_cases second : key = p.second
      · rw [if_pos second] at h
        split at h
        · cases h
        · exact length_of_field (fun a => (met.1, some a)) h
      · rw [if_neg second] at h
        exact length_of_other h

theorem length_of_nextMember {s r : List Char} {more : Bool} (h : nextMember s = .ok (more, r)) :
    r.length < s.length := by
  unfold nextMember at h
  split at h
  · cases h
  · next e =>
    have := length_lt_of_skipBlanks e
    split at h
    · cases h
      omega
    · split at h
      · split at h
        · cases h
        · next e' =>
          have := length_lt_of_skipBlanks e'
          split at h
          · cases h
            omega
          · cases h
      · cases h

def members (p : PairShape α) (met : Met α) (s : List Char) : Result (Met α) :=
  match hm : p.member met s with
  | .error f => .error f
  | .ok (met, r) =>
    match hn : nextMember r with
    | .error f => .error f
    | .ok (true, q) =>
      have := length_of_member hm
      have := length_of_nextMember hn
      p.members met q
    | .ok (false, q) => .ok (met, q)
  termination_by s.length
  decreasing_by omega

def complete (p : PairShape α) (met : Met α) : Except Fault (α × α) :=
  match met.1 <|> p.missing, met.2 <|> p.missing with
  | some a, some b => .ok (a, b)
  | _, _ => .error .mistyped

def object (p : PairShape α) (s : List Char) : Result (α × α) :=
  match skipBlanks s with
  | [] => .error .truncated
  | c :: r =>
    if c = '}' then (p.complete (none, none)).map fun pair => (pair, r)
    else if c = '"' then
      match p.members (none, none) r with
      | .error f => .error f
      | .ok (met, rest) => (p.complete met).map fun pair => (pair, rest)
    else .error .malformed

def nextElement (s : List Char) : Except Fault (List Char) :=
  match skipBlanks s with
  | [] => .error .truncated
  | c :: r =>
    if c = ']' then .error .mistyped
    else if c = ',' then
      match skipBlanks r with
      | [] => .error .truncated
      | d :: q => if d = ']' then .error .malformed else .ok (d :: q)
    else .error .malformed

def closeArray (s : List Char) : Except Fault (List Char) :=
  match skipBlanks s with
  | [] => .error .truncated
  | c :: r => if c = ']' then .ok r else .error .malformed

def array (p : PairShape α) (s : List Char) : Except Fault ((α × α) × List Char) := do
  match skipBlanks s with
  | [] => .error .truncated
  | c :: r =>
    if c = ']' then .error .mistyped else
      let (a, rest) ← p.value (c :: r)
      let (b, rest) ← p.value (← nextElement rest)
      return ((a, b), ← closeArray rest)

def read (p : PairShape α) (s : List Char) : Result (α × α) :=
  match skipBlanks s with
  | [] => .error .truncated
  | c :: r =>
    if c = '{' then p.object r
    else if c = '[' then p.array r
    else .error (wrongType (c :: r))

end PairShape

end TimeWindow.Json
