import TimeWindow.CommandLine
import TimeWindow.CommandLine.Help
import TimeWindow.Json
import TimeWindow.Request
import TimeWindow.Resolution

/-! The program: a command line, an environment and a clock make a run.  A run knows all its events; which
of them are shown is decided last. -/

namespace TimeWindow.Program

structure Run where
  events : List Event
  result : Except Failure String

namespace Run

def exit (r : Run) : Nat :=
  match r.result with
  | .ok _ => 0
  | .error _ => 1

def stdout (r : Run) : String :=
  match r.result with
  | .ok text => text
  | .error _ => ""

def failureEntries (r : Run) : List String :=
  match r.result with
  | .ok _ => []
  | .error f => ["Error: " ++ f.message]

def shownEvents (r : Run) (most : Level) : List Event := r.events.filter (·.isShown most)

def stderr (r : Run) (most : Level) : List String :=
  (r.shownEvents most).map Event.entry ++ r.failureEntries

end Run

def row (token minutes label : String) : String :=
  String.ofList
    (token.toList.rightpad 10 ' ' ++ ' ' :: minutes.toList.leftpad 8 ' ' ++ ' ' :: ' ' :: label.toList ++ ['\n'])

def menuRow (s : Selector) : String :=
  row s.token (match s.minutes? with | some m => Text.decimal m | none => "-") s.label

def menuTable : String :=
  (Selector.menu.map menuRow).foldl (· ++ ·) (row "SELECTOR" "MINUTES" "LABEL")

def windowText (w : Window) : String := Text.decimal w.first.toInt ++ " " ++ Text.decimal w.last.toInt

def print (json : Bool) (w : Window) : String := (if json then w.toJson else windowText w) ++ "\n"

/-- Listing the menu comes before all else.  Otherwise the selector is chosen, its bounds are read, and the
window is resolved; the first failure ends the run. -/
def run (o : Options) (env : Environment) (clock : Clock) : Run :=
  if o.list then ⟨[], .ok menuTable⟩ else
    match Selector.choose (o.selectorToken env) (o.fallbackToken env) with
    | (.error f, chosen) => ⟨chosen, .error f⟩
    | (.ok s, chosen) =>
      let request := Bounds.request s o.start o.stop o.strict clock
      match request.value with
      | .error f => ⟨chosen ++ request.events, .error f⟩
      | .ok bounds =>
        let resolved := s.resolve bounds request.clock
        let w := resolved.value
        ⟨chosen ++ request.events ++ resolved.events ++ [.chosen s, .spanned w], .ok (print o.json w)⟩

/-- How often a run may read its clock: for each bound, and for the window. -/
def mostReadings : Nat := 3

def version : String := "timerange 0.1.0\n"

structure Output where
  exit : Nat
  stdout : String
  stderr : List String
  deriving DecidableEq, Repr

def Output.errorLines (o : Output) : List String := o.stderr.flatMap Text.writtenLines

def Output.ofStop (env : Environment) : CommandLine.Stop → Output
  | .help => ⟨0, CommandLine.help env, []⟩
  | .version => ⟨0, version, []⟩
  | .misuse m => ⟨2, "", [m.message]⟩

def Output.ofRun (most : Level) (r : Run) : Output := ⟨r.exit, r.stdout, r.stderr most⟩

def execute (args : List String) (env : Environment) (clock : Clock) : Output :=
  match CommandLine.read args with
  | .error stop => Output.ofStop env stop
  | .ok o => Output.ofRun (Level.shown o.quiet o.verbose) (run o env clock)

end TimeWindow.Program
