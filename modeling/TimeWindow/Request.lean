import TimeWindow.Failure
import TimeWindow.Report

namespace TimeWindow

/-- The selector of a token, or else of the fallback; falling back is told even if it fails. -/
def Selector.choose (token : String) (fallback : Option String) :
    Except Failure Selector × List Event :=
  match ofToken? token, fallback with
  | some s, _ => (.ok s, [])
  | none, none => (.error (.selector token), [])
  | none, some fallback =>
    match ofToken? fallback with
    | some s => (.ok s, [.fallenBack token fallback])
    | none => (.error (.fallback fallback), [.fallenBack token fallback])

namespace Bounds

def readOne (input : Option String) (clock : Clock) : Except Endpoint.Error (Option Millis) × Clock :=
  match input with
  | none => (.ok none, clock)
  | some text =>
    match Endpoint.read text clock with
    | (.ok t, clock) => (.ok (some t), clock)
    | (.error e, clock) => (.error e, clock)

def readBoth (start stop : Option String) (clock : Clock) : Except Endpoint.Error Bounds × Clock :=
  match readOne start clock with
  | (.error e, clock) => (.error e, clock)
  | (.ok start, clock) =>
    match readOne stop clock with
    | (.error e, clock) => (.error e, clock)
    | (.ok stop, clock) => (.ok ⟨start, stop⟩, clock)

def given? (b : Bounds) : Option Bounds := if b = absent then none else some b

def filter (strict : Bool) (b : Bounds) : Except Failure (Option Bounds) :=
  if strict then
    match b.check with
    | .ok _ => .ok b.given?
    | .error f => .error (.bounds f)
  else .ok b.given?

/-- The bounds asked for beside a selector.  Only a custom window reads them; beside a span they are
ignored, which is told. -/
def request (s : Selector) (start stop : Option String) (strict : Bool) (clock : Clock) :
    Report (Except Failure (Option Bounds)) :=
  match s with
  | .last _ => ⟨.ok none, clock, if start.isSome || stop.isSome then [.boundsIgnored s] else []⟩
  | .custom =>
    match readBoth start stop clock with
    | (.error e, clock) => ⟨.error (.endpoint e), clock, []⟩
    | (.ok b, clock) => ⟨b.filter strict, clock, []⟩

end Bounds

end TimeWindow
