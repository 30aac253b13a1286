import TimeWindow.Word

namespace TimeWindow

/-- Milliseconds since 1970-01-01 00:00 UTC, or a length of time. -/
abbrev Millis := Int64

abbrev Nanos := Int64

def millisPerMinute : Int := 60000

/-- The instant so many minutes before `now`; the product and the difference stop at the last word. -/
def minutesBefore (now : Millis) (minutes : Int64) : Millis :=
  Word.clamp (now.toInt - (Word.clamp (minutes.toInt * millisPerMinute)).toInt)

structure Clock where
  reading : Nat → Millis
  reads : Nat

namespace Clock

def fixed (now : Millis) : Clock := ⟨fun _ => now, 0⟩

def stepping (now step : Millis) : Clock := ⟨fun k => now + Int64.ofNat k * step, 0⟩

def showing (readings : List Millis) : Clock := ⟨fun k => readings.getD k 0, 0⟩

def now (c : Clock) : Millis := c.reading c.reads

def tick (c : Clock) : Clock := { c with reads := c.reads + 1 }

def next (c : Clock) (n : Nat) : List Millis := (List.range n).map fun k => c.reading (c.reads + k)

@[simp] theorem now_fixed (t : Millis) : (fixed t).now = t := rfl

@[simp] theorem reading_tick (c : Clock) : c.tick.reading = c.reading := rfl

@[simp] theorem reads_tick (c : Clock) : c.tick.reads = c.reads + 1 := rfl

end Clock

end TimeWindow
