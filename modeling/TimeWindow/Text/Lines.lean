namespace TimeWindow.Text

/-- The lines of a text.  A line feed ends a line, alone or after a carriage return; the last line need not
be ended. -/
def lines : List Char → List (List Char)
  | [] => []
  | '\n' :: s => [] :: lines s
  | '\r' :: '\n' :: s => [] :: lines s
  | c :: s =>
    match lines s with
    | [] => [[c]]
    | line :: rest => (c :: line) :: rest

def writtenLines (s : String) : List String := (lines (s.toList ++ ['\n'])).map String.ofList

example : writtenLines "a\r\nb\rc\n" = ["a", "b\rc", ""] := by decide +kernel

end TimeWindow.Text
