import TimeWindow.Clock
import TimeWindow.Text.Decimal

namespace TimeWindow

structure Bounds where
  start : Option Millis
  stop : Option Millis
  deriving DecidableEq, Repr

namespace Bounds

def absent : Bounds := ⟨none, none⟩

def filled (b : Bounds) : Millis × Millis := (b.start.getD 0, b.stop.getD 0)

inductive Fault
  | missingStart : Fault
  | missingStop : Fault
  | inverted : Millis → Millis → Fault
  deriving DecidableEq, Repr

def Fault.message : Fault → String
  | missingStart => "custom range has no start"
  | missingStop => "custom range has no end"
  | inverted start stop =>
    "custom range start " ++ Text.decimal start.toInt ++ " is after end " ++ Text.decimal stop.toInt

def check : Bounds → Except Fault (Millis × Millis)
  | ⟨none, _⟩ => .error .missingStart
  | ⟨some _, none⟩ => .error .missingStop
  | ⟨some start, some stop⟩ => if stop < start then .error (.inverted start stop) else .ok (start, stop)

end Bounds

end TimeWindow
