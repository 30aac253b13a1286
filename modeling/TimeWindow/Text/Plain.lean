/-! What is left of a text once the sequences that a terminal would obey are taken out of it, and with them
all controls but those of layout. -/

namespace TimeWindow.Text

inductive Sequence
  | escape
  | escapeMiddle
  | control
  | command
  | device
  | deviceParameters
  | deviceMiddle
  | string
  deriving DecidableEq, Repr

def isLayout (c : Char) : Bool := c ∈ ['\t', '\n', '\x0c', '\r']

def isKept (c : Char) : Bool := isLayout c || 0x20 ≤ c.toNat && c.toNat ≠ 0x7f

namespace Sequence

def escapeNext (c : Char) : Option Sequence :=
  if c = '[' then some control
  else if c = ']' then some command
  else if c = 'P' then some device
  else if c ∈ ['X', '^', '_'] then some string
  else if '0' ≤ c ∧ c ≤ '~' then none
  else if ' ' ≤ c ∧ c < '0' then some escapeMiddle
  else some escape

def deviceNext (c : Char) : Option Sequence :=
  if ' ' ≤ c ∧ c < '0' then some deviceMiddle
  else if '0' ≤ c ∧ c ≤ '?' then some deviceParameters
  else if '@' ≤ c ∧ c ≤ '~' then some string
  else some device

def deviceParametersNext (c : Char) : Option Sequence :=
  if ' ' ≤ c ∧ c < '0' then some deviceMiddle
  else if '<' ≤ c ∧ c ≤ '~' then some string
  else some deviceParameters

/-- What a sequence becomes at a character; nothing if it is over.  A string is ended by the byte `9C`, also
where it is part of a character. -/
def next : Sequence → Char → Option Sequence
  | escape, c => escapeNext c
  | escapeMiddle, c => if '0' ≤ c ∧ c ≤ '~' then none else some escapeMiddle
  | control, c => if '@' ≤ c ∧ c ≤ '~' then none else some control
  | command, c => if c = '\x07' then none else some command
  | device, c => deviceNext c
  | deviceParameters, c => deviceParametersNext c
  | deviceMiddle, c => if '0' ≤ c ∧ c ≤ '~' then some string else some deviceMiddle
  | string, c => if 0x9c ∈ String.utf8EncodeChar c then none else some string

def keepsLayout : Sequence → Bool
  | escape => true
  | escapeMiddle => true
  | control => true
  | _ => false

end Sequence

inductive Place
  | kept : Option Sequence → Place
  | inside : Sequence → Place
  deriving DecidableEq, Repr

namespace Place

def start : Place := kept none

def resume : Option Sequence → Place
  | none => start
  | some s => inside s

/-- The place after a character, and whether the character is kept.  Layout that a sequence keeps suspends it
until the next control. -/
def step (p : Place) (c : Char) : Place × Bool :=
  if c = '\x1b' then (inside .escape, false)
  else if c = '\x18' ∨ c = '\x1a' then (start, false)
  else
    match p with
    | kept held =>
      if isKept c then (if c.toNat < 0x80 then kept held else start, true) else (resume held, false)
    | inside s => if s.keepsLayout && isLayout c then (kept (some s), true) else (resume (s.next c), false)

def keep : Place → List Char → List Char
  | _, [] => []
  | p, c :: s =>
    match p.step c with
    | (q, true) => c :: q.keep s
    | (q, false) => q.keep s

end Place

def plain (s : String) : String := String.ofList (Place.start.keep s.toList)

example : plain "a\x1b[1;31mb\x07\x1b]0;c" = "ab" := by decide +kernel

end TimeWindow.Text
