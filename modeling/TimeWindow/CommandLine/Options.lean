namespace TimeWindow

structure Options where
  selector : Option String := none
  start : Option String := none
  stop : Option String := none
  fallback : Option String := none
  strict : Bool := false
  json : Bool := false
  list : Bool := false
  quiet : Bool := false
  verbose : Nat := 0
  deriving DecidableEq, Repr

/-- Variables that stand in for what a command line leaves out.  An empty one counts. -/
structure Environment where
  selector : Option String := none
  fallback : Option String := none
  deriving DecidableEq, Repr

def Environment.selectorName : String := "TIMERANGE_INTERVAL"

def Environment.fallbackName : String := "TIMERANGE_FALLBACK"

namespace Options

def selectorToken (o : Options) (env : Environment) : String :=
  (o.selector <|> env.selector).getD "15min"

def fallbackToken (o : Options) (env : Environment) : Option String := o.fallback <|> env.fallback

end Options

namespace CommandLine

inductive Valued
  | start
  | stop
  | fallback
  deriving DecidableEq, Repr

inductive Switch
  | strict
  | json
  | list
  | quiet
  | verbose
  | help
  | version
  deriving DecidableEq, Repr

inductive Named
  | valued : Valued → Named
  | switch : Switch → Named
  deriving DecidableEq, Repr

def Valued.usage : Valued → String
  | start => "--start <TIME>"
  | stop => "--end <TIME>"
  | fallback => "--fallback <SELECTOR>"

def Switch.usage : Switch → String
  | strict => "--strict"
  | json => "--json"
  | list => "--list"
  | quiet => "--quiet"
  | verbose => "--verbose..."
  | help => "--help"
  | version => "--version"

def Named.usage : Named → String
  | valued v => v.usage
  | switch s => s.usage

def Named.ofName? (name : String) : Option Named :=
  match name with
  | "start" => some (valued .start)
  | "end" => some (valued .stop)
  | "fallback" => some (valued .fallback)
  | "strict" => some (switch .strict)
  | "json" => some (switch .json)
  | "list" => some (switch .list)
  | "quiet" => some (switch .quiet)
  | "verbose" => some (switch .verbose)
  | "help" => some (switch .help)
  | "version" => some (switch .version)
  | _ => none

def Named.ofLetter? (letter : Char) : Option Named :=
  match letter with
  | 's' => some (valued .start)
  | 'e' => some (valued .stop)
  | 'q' => some (switch .quiet)
  | 'v' => some (switch .verbose)
  | 'h' => some (switch .help)
  | 'V' => some (switch .version)
  | _ => none

end CommandLine

end TimeWindow
