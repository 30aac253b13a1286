import TimeWindow.Calendar
import TimeWindow.Clock
import TimeWindow.Text.Decimal

namespace TimeWindow.Calendar

open Text

def yearText (year : Int) : List Char :=
  if 0 ≤ year ∧ year ≤ 9999 then padded 4 year.toNat
  else (if year < 0 then '-' else '+') :: padded 4 year.natAbs

def dateText (d : Date) : List Char := yearText d.year ++ '-' :: padded 2 d.month ++ '-' :: padded 2 d.day

def timeText (t : TimeOfDay) : List Char :=
  padded 2 t.hour ++ ':' :: padded 2 t.minute ++ ':' :: padded 2 t.second ++ '.' :: padded 3 t.milli

/-- The timestamp of an instant, or its bare number where the calendar is not supported. -/
def timestamp (t : Millis) : String :=
  let m := Moment.ofEpochMillis t.toInt
  String.ofList <|
    if m.date.Supported then dateText m.date ++ ' ' :: timeText m.time ++ " UTC".toList
    else signed t.toInt

end TimeWindow.Calendar
