import Std.Time.DateTime.Timestamp
import TimeWindow.Clock

namespace TimeWindow.WallClock

def now : IO Millis := do
  let t ← Std.Time.Timestamp.now
  return Word.clamp t.toMillisecondsSinceUnixEpoch.toInt

def readings (n : Nat) : IO (List Millis) := (List.range n).mapM fun _ => now

end TimeWindow.WallClock
