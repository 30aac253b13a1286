import TimeWindow.CommandLine.Options
import TimeWindow.Text.Plain

namespace TimeWindow.CommandLine

def Valued.about : Valued → String
  | start =>
    "Start of a custom range. Supported formats: - Epoch milliseconds: 1738944000000 " ++
      "- Relative: -15m, -2h, -3d, -1w - ISO 8601: 2026-02-07T17:00:00 - Date:time: 2026-02-07:07:00"
  | stop => "End of a custom range (same formats as --start)"
  | fallback => "Selector to use when SELECTOR is not recognized"

def Switch.about : Switch → String
  | strict => "Reject custom ranges with a missing bound or start after end"
  | json => "Output as JSON"
  | list => "List all selectors and exit"
  | quiet => "Quiet mode - only show errors"
  | verbose => "Increase logging verbosity (-v info, -vv debug, -vvv trace). Default is warn"
  | help => "Print help"
  | version => "Print version"

def variableNote (name : String) (value : Option String) : String :=
  " [env: " ++ name ++ "=" ++ Text.plain (value.getD "") ++ "]"

namespace Named

def about : Named → String
  | valued v => v.about
  | switch s => s.about

def letter? : Named → Option Char
  | valued .start => some 's'
  | valued .stop => some 'e'
  | switch .quiet => some 'q'
  | switch .verbose => some 'v'
  | switch .help => some 'h'
  | switch .version => some 'V'
  | _ => none

theorem ofLetter?_eq_some_iff {c : Char} {n : Named} : ofLetter? c = some n ↔ n.letter? = some c := by
  constructor
  · intro h
    unfold ofLetter? at h
    split at h <;> cases h <;> rfl
  · intro h
    unfold letter? at h
    split at h <;> cases h <;> rfl

def note (env : Environment) : Named → String
  | valued .fallback => variableNote Environment.fallbackName env.fallback
  | _ => ""

def helpRow (env : Environment) (n : Named) : String :=
  "  " ++ (match n.letter? with | some c => String.ofList ['-', c, ',', ' '] | none => "    ") ++
    String.ofList (n.usage.toList.rightpad 21 ' ') ++ "  " ++ n.about ++ n.note env ++ "\n"

def listed : List Named :=
  [valued .start, valued .stop, valued .fallback, switch .strict, switch .json, switch .list, switch .verbose,
    switch .quiet, switch .help, switch .version]

end Named

def aboutSelector : String :=
  "Interval selector: 1min, 5min, 10min, 15min, 30min, 45min, 1hr, 3hr, 4hr, 6hr, 12hr, " ++
    "1day, 3days, 4days, 10days, 1week, 2weeks, 6weeks, 2months, custom"

/-- Variables are shown with their values. -/
def help (env : Environment) : String :=
  "Resolve dashboard time selectors\n\nUsage: timerange [OPTIONS] [SELECTOR]\n\nArguments:\n  [SELECTOR]  " ++
    aboutSelector ++ variableNote Environment.selectorName env.selector ++
    " [default: " ++ Options.selectorToken {} {} ++ "]\n\nOptions:\n" ++
    (Named.listed.map (Named.helpRow env)).foldl (· ++ ·) ""

end TimeWindow.CommandLine
