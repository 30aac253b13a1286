import TimeWindow.Endpoint.Format

/-! Endpoints of a custom window as a person writes them.  A text names a fixed instant or one some time
ago; only the latter needs a clock, and reads it once. -/

namespace TimeWindow

inductive Endpoint
  | fixed : Millis → Endpoint
  | ago : Millis → Endpoint
  deriving DecidableEq, Repr

namespace Endpoint

open Text

def ofMoment (m : Calendar.Moment) : Endpoint := fixed (Int64.ofInt m.epochMillis)

def ofText? (s : List Char) : Option Endpoint :=
  (epoch? s).map fixed <|> (offset? s).map ago <|> (iso? s).map ofMoment <|> (dateTime? s).map ofMoment

inductive Fault
  | overflow
  | unrecognized
  deriving DecidableEq, Repr

def Fault.reason : Fault → String
  | overflow => "Relative time overflow"
  | unrecognized =>
    "Unrecognized format. Use: ISO 8601 (2026-02-07T17:00:00), epoch millis (1738944000000), " ++
      "relative (-15m, -2h, -3d), or date:time (2026-02-07:07:00)"

structure Error where
  text : String
  fault : Fault
  deriving DecidableEq, Repr

def Error.message (e : Error) : String :=
  "Failed to parse time '" ++ e.text ++ "': " ++ e.fault.reason

def readBy (named : List Char → Option Endpoint) (input : String) (clock : Clock) :
    Except Error Millis × Clock :=
  let s := trim input.toList
  match named s with
  | none => (.error ⟨String.ofList s, .unrecognized⟩, clock)
  | some (fixed t) => (.ok t, clock)
  | some (ago offset) =>
    match Word.ofInt? (clock.now.toInt - offset.toInt) with
    | some t => (.ok t, clock.tick)
    | none => (.error ⟨String.ofList s, .overflow⟩, clock.tick)

def read (input : String) (clock : Clock) : Except Error Millis × Clock := readBy ofText? input clock

end Endpoint

end TimeWindow
