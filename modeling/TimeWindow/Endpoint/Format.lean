import TimeWindow.Clock
import TimeWindow.Endpoint.Field
import TimeWindow.Text.Bytes

namespace TimeWindow.Endpoint

open Calendar Text

def epoch? (s : List Char) : Option Millis :=
  if s ≠ [] ∧ s.all Char.isDigit then Word.ofInt? (value s) else none

def unitMillis? : Char → Option Nat
  | 's' => some 1000
  | 'm' => some 60000
  | 'h' => some 3600000
  | 'd' => some 86400000
  | 'w' => some 604800000
  | _ => none

/-- `-15m` is the length of fifteen minutes, to be taken from the present. -/
def offset? : List Char → Option Millis
  | '-' :: s => do
    let unit ← unitMillis? (← s.getLast?)
    let digits := s.dropLast
    if digits ≠ [] ∧ digits.all Char.isDigit then Word.ofInt? (value digits * unit : Nat) else none
  | _ => none

def moment? (date : Date) (time : TimeOfDay) (east : Int) : Option Moment :=
  let m : Moment := ⟨date, time, east⟩
  if m.Valid then some m else none

namespace Iso

/-- `2026-02-07T17:00:00.250+02:00`: fields of fixed width, and a zone. -/
def zoned? : List Char → Option Moment :=
  Reader.whole fun s => do
    let (date, s) ← strictDate? s
    let s ← skip? 'T' s <|> skip? 't' s <|> skip? ' ' s
    let (time, s) ← strictTime? s
    let (east, s) ← zone? s
    return (← moment? date time east, s)

def local? (time? : Reader TimeOfDay) : List Char → Option Moment :=
  Reader.whole fun s => do
    let (date, s) ← date? s
    let s ← skip? 'T' s
    let (time, s) ← time? s
    return (← moment? date time 0, s)

def toSecond? : List Char → Option Moment := local? hourMinuteSecond?

def toFraction? : List Char → Option Moment := local? hourMinuteFraction?

def toMinute? : List Char → Option Moment := local? hourMinute?

end Iso

def iso? (s : List Char) : Option Moment :=
  if 'T' ∈ s then Iso.zoned? s <|> Iso.toSecond? s <|> Iso.toFraction? s <|> Iso.toMinute? s else none

/-- `2026-02-07:17:00` or `2026-02-07:17:00:00`: ten bytes of date, a colon, five or eight bytes of time. -/
def dateTime? (s : List Char) : Option Moment := do
  let (date, rest) ← cut? 10 s
  let time ← skip? ':' rest
  let date ← Reader.whole date? date
  let time ←
    if byteSize time = 5 then Reader.whole hourMinute? time
    else if byteSize time = 8 then Reader.whole hourMinuteSecond? time
    else none
  moment? date time 0

end TimeWindow.Endpoint
