import TimeWindow.Clock

namespace TimeWindow

def nanosPerMilli : Int := 1000000

/-- The last bound may come before the first: such a window is inverted and has no length. -/
structure Window where
  first : Nanos
  last : Nanos
  deriving DecidableEq, Repr

namespace Window

def scale (t : Millis) : Nanos := Word.clamp (t.toInt * nanosPerMilli)

def ofMillis (first last : Millis) : Window := ⟨scale first, scale last⟩

def truncate (t : Nanos) : Millis := t / 1000000

def firstMillis (w : Window) : Millis := truncate w.first

def lastMillis (w : Window) : Millis := truncate w.last

def length (w : Window) : Nat := (Word.clamp (w.last.toInt - w.first.toInt)).toInt.toNat

def seconds (w : Window) : Nat := w.length / 1000000000

def isInverted (w : Window) : Bool := w.last < w.first

end Window

end TimeWindow
