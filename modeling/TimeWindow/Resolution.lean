import TimeWindow.Bounds
import TimeWindow.Report

namespace TimeWindow

def Span.window (s : Span) (now : Millis) : Window :=
  Window.ofMillis (minutesBefore now (Int64.ofNat s.minutes)) now

def Bounds.window (b : Bounds) : Window := Window.ofMillis b.filled.1 b.filled.2

namespace Selector

/-- The bounds matter to the custom window alone; missing ones are no bounds at all. -/
def resolve (s : Selector) (bounds : Option Bounds) (clock : Clock) : Report Window :=
  match s with
  | last span =>
    let w := span.window clock.now
    ⟨w, clock.tick, [.resolved s w]⟩
  | custom =>
    let b := bounds.getD .absent
    let w := b.window
    ⟨w, clock, if w.isInverted then [.inverted b.filled.1 b.filled.2, .resolved s w] else [.resolved s w]⟩

/-- Reads the token first: for an unknown one no clock is read and nothing is told. -/
def resolveToken (token : String) (bounds : Option Bounds) (clock : Clock) : Report (Option Window) :=
  match ofToken? token with
  | none => ⟨none, clock, []⟩
  | some s =>
    let r := s.resolve bounds clock
    ⟨some r.value, r.clock, r.events⟩

def resolveAll (bounds : Option Bounds) : List Selector → Clock → Report (List (Selector × Window))
  | [], clock => ⟨[], clock, []⟩
  | s :: rest, clock =>
    let r := s.resolve bounds clock
    let q := resolveAll bounds rest r.clock
    ⟨(s, r.value) :: q.value, q.clock, r.events ++ q.events⟩

end Selector

end TimeWindow
