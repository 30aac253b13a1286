import TimeWindow.Program
import TimeWindow.WallClock

open TimeWindow

def main (args : List String) : IO UInt32 := do
  let env : Environment := ⟨← IO.getEnv Environment.selectorName, ← IO.getEnv Environment.fallbackName⟩
  let clock := Clock.showing (← WallClock.readings Program.mostReadings)
  let output := Program.execute args env clock
  for line in output.stderr do
    (← IO.getStderr).putStrLn line
  (← IO.getStdout).putStr output.stdout
  return output.exit.toUInt32
