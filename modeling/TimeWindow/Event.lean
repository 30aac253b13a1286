import TimeWindow.Calendar.Timestamp
import TimeWindow.Selector
import TimeWindow.Text.Lines
import TimeWindow.Text.Visible
import TimeWindow.Window

namespace TimeWindow

inductive Level
  | error | warn | info | debug | trace
  deriving DecidableEq, Repr

namespace Level

def rank : Level → Nat
  | error => 0
  | warn => 1
  | info => 2
  | debug => 3
  | trace => 4

def name : Level → String
  | error => "ERROR"
  | warn => "WARN"
  | info => "INFO"
  | debug => "DEBUG"
  | trace => "TRACE"

/-- The level that a run shows: errors alone if quiet, else warnings and a level more each time. -/
def shown (quiet : Bool) (verbose : Nat) : Level :=
  if quiet then error else
    match verbose with
    | 0 => warn
    | 1 => info
    | 2 => debug
    | _ => trace

end Level

inductive Event
  | fallenBack : String → String → Event
  | boundsIgnored : Selector → Event
  | inverted : Millis → Millis → Event
  | resolved : Selector → Window → Event
  | chosen : Selector → Event
  | spanned : Window → Event
  deriving DecidableEq, Repr

namespace Event

def level : Event → Level
  | fallenBack .. => .warn
  | boundsIgnored _ => .warn
  | inverted .. => .warn
  | resolved .. => .trace
  | chosen _ => .info
  | spanned _ => .debug

def text : Event → String
  | fallenBack token fallback => Selector.refusal token ++ ", falling back to '" ++ fallback ++ "'"
  | boundsIgnored s => "--start/--end are ignored for selector '" ++ s.token ++ "'"
  | inverted start stop =>
    "custom range is inverted: start=" ++ Text.decimal start.toInt ++ " end=" ++ Text.decimal stop.toInt
  | resolved s w =>
    "resolved " ++ s.token ++ ": min_time=" ++ Text.decimal w.first.toInt ++ " max_time=" ++
      Text.decimal w.last.toInt
  | chosen s => "Resolved '" ++ s.token ++ "' (" ++ s.label ++ ")"
  | spanned w =>
    "Window: " ++ Calendar.timestamp w.firstMillis ++ " .. " ++ Calendar.timestamp w.lastMillis ++ " (" ++
      Text.decimal w.seconds ++ "s)"

def entry (e : Event) : String := e.level.name ++ " " ++ Text.visible e.text

def lines (e : Event) : List String := Text.writtenLines e.entry

def isShown (most : Level) (e : Event) : Bool := e.level.rank ≤ most.rank

end Event

end TimeWindow
