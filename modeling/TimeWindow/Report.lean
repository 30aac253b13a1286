import TimeWindow.Event

namespace TimeWindow

/-- A value, the clock after the work, and the events told on the way, oldest first. -/
structure Report (α : Type) where
  value : α
  clock : Clock
  events : List Event

end TimeWindow
