namespace TimeWindow.Text

def hex (n : Nat) : List Char := Nat.toDigits 16 n

/-- The controls that take part in escape sequences are written out, those of eight bits by code point. -/
def visibleChar (c : Char) : List Char :=
  if c ∈ ['\x1b', '\x07', '\x08', '\x0c', '\x7f'] then '\\' :: 'x' :: (hex c.toNat).leftpad 2 '0'
  else if 0x80 ≤ c.toNat ∧ c.toNat ≤ 0x9f then '\\' :: 'u' :: '\x7b' :: hex c.toNat ++ ['\x7d']
  else [c]

def visible (s : String) : String := String.ofList (s.toList.flatMap visibleChar)

example : visible "a\x1b[0m\n" = "a\\x1b[0m\n" := by decide +kernel

end TimeWindow.Text
