import TimeWindow.Bounds
import TimeWindow.Json.Pair
import TimeWindow.Selector
import TimeWindow.Window

namespace TimeWindow

namespace Selector

/-- The name that a selector is stored under.  It is a table of its own, beside that of the tokens. -/
def jsonName : Selector → String
  | last .min1 => "1min"
  | last .min5 => "5min"
  | last .min10 => "10min"
  | last .min15 => "15min"
  | last .min30 => "30min"
  | last .min45 => "45min"
  | last .hr1 => "1hr"
  | last .hr3 => "3hr"
  | last .hr4 => "4hr"
  | last .hr6 => "6hr"
  | last .hr12 => "12hr"
  | last .day1 => "1day"
  | last .day3 => "3days"
  | last .day4 => "4days"
  | last .day10 => "10days"
  | last .week1 => "1week"
  | last .week2 => "2weeks"
  | last .week6 => "6weeks"
  | last .month2 => "2months"
  | custom => "custom"

def declared : List Selector :=
  [last .min1, last .min5, last .min10, last .min15, last .min30, last .min45,
    last .hr1, last .hr3, last .hr4, last .hr6, last .hr12,
    last .day1, last .day3, last .day4, last .day10,
    last .week1, last .week2, last .week6, last .month2, custom]

def ofJsonName? (name : String) : Option Selector := declared.find? fun s => s.jsonName == name

def toJson (s : Selector) : String := "\"" ++ s.jsonName ++ "\""

def readName (s : List Char) : Json.Result Selector :=
  match Json.quoted s with
  | .error f => .error f
  | .ok (name, r) =>
    match ofJsonName? (String.ofList name) with
    | some s => .ok (s, r)
    | none => .error .mistyped

def readMember (s : List Char) : Except Json.Fault (Selector × List Char) := do
  let (selector, r) ← readName s
  let r ← Json.null (← Json.skipColon r)
  match Json.skipBlanks r with
  | [] => .error .truncated
  | c :: r => if c = '}' then return (selector, r) else .error .malformed

def readJson (s : List Char) : Json.Result Selector :=
  match Json.skipBlanks s with
  | [] => .error .truncated
  | c :: r =>
    if c = '"' then readName r
    else if c = '{' then
      match Json.skipBlanks r with
      | [] => .error .truncated
      | d :: q => if d = '"' then readMember q else .error .malformed
    else .error .malformed

def ofJson (text : String) : Except Json.Fault Selector := Json.decode readJson text

end Selector

def Json.pairText (first a second b : String) : String :=
  "\x7b\"" ++ first ++ "\":" ++ a ++ ",\"" ++ second ++ "\":" ++ b ++ "\x7d"

namespace Bounds

def shape : Json.PairShape (Option Millis) where
  first := "start".toList
  second := "end".toList
  value := Json.optionalInteger
  missing := some none
  length_of_value := Json.length_of_optionalInteger

def boundText : Option Millis → String
  | none => "null"
  | some t => Text.decimal t.toInt

def toJson (b : Bounds) : String := Json.pairText "start" (boundText b.start) "end" (boundText b.stop)

def ofJson (text : String) : Except Json.Fault Bounds :=
  (Json.decode shape.read text).map fun (start, stop) => ⟨start, stop⟩

end Bounds

namespace Window

def shape : Json.PairShape Nanos where
  first := "minTime".toList
  second := "maxTime".toList
  value := Json.integer
  missing := none
  length_of_value := Json.length_of_integer

def toJson (w : Window) : String :=
  Json.pairText "minTime" (Text.decimal w.first.toInt) "maxTime" (Text.decimal w.last.toInt)

def ofJson (text : String) : Except Json.Fault Window :=
  (Json.decode shape.read text).map fun (first, last) => ⟨first, last⟩

end Window

end TimeWindow
