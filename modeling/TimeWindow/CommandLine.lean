import TimeWindow.CommandLine.Options
import TimeWindow.Text.Plain

/-! Reading a command line, from left to right.  An option whose value is an argument of its own is only
recorded once something else follows: until then it waits, and what is wrong with it waits too. -/

namespace TimeWindow.CommandLine

inductive Misuse
  | unexpectedArgument : String → Misuse
  | missingValue : Valued → Misuse
  | repeated : Named → Misuse
  | unexpectedValue : String → Switch → Misuse
  deriving DecidableEq, Repr

/-- An argument is shown without what a terminal would obey. -/
def Misuse.message : Misuse → String
  | unexpectedArgument arg => "error: unexpected argument '" ++ Text.plain arg ++ "' found"
  | missingValue v => "error: a value is required for '" ++ v.usage ++ "' but none was supplied"
  | repeated n => "error: the argument '" ++ n.usage ++ "' cannot be used multiple times"
  | unexpectedValue value s =>
    "error: unexpected value '" ++ Text.plain value ++ "' for '" ++ s.usage ++ "' found; no more were expected"

inductive Stop
  | help : Stop
  | version : Stop
  | misuse : Misuse → Stop
  deriving DecidableEq, Repr

inductive Shape
  | ending : Shape
  | long : List Char → Option (List Char) → Shape
  | short : List Char → Shape
  | plain : Shape
  deriving DecidableEq, Repr

/-- A long option may have a value after `=`; a hyphen alone is a plain argument. -/
def Shape.of (arg : List Char) : Shape :=
  match arg with
  | ['-', '-'] => ending
  | '-' :: '-' :: body =>
    match body.dropWhile (· ≠ '=') with
    | [] => long body none
    | _ :: value => long (body.takeWhile (· ≠ '=')) (some value)
  | ['-'] => plain
  | '-' :: letters => short letters
  | _ => plain

end TimeWindow.CommandLine

namespace TimeWindow.Options

open CommandLine

def value (o : Options) : Valued → Option String
  | .start => o.start
  | .stop => o.stop
  | .fallback => o.fallback

def record (o : Options) (v : Valued) (text : String) : Except Stop Options :=
  if (o.value v).isSome then .error (.misuse (.repeated (.valued v))) else
    .ok <| match v with
      | .start => { o with start := some text }
      | .stop => { o with stop := some text }
      | .fallback => { o with fallback := some text }

def once (s : Switch) (before : Bool) (after : Options) : Except Stop Options :=
  if before then .error (.misuse (.repeated (.switch s))) else .ok after

def mostVerbose : Nat := 255

def turnOn (o : Options) : Switch → Except Stop Options
  | .strict => once .strict o.strict { o with strict := true }
  | .json => once .json o.json { o with json := true }
  | .list => once .list o.list { o with list := true }
  | .quiet => once .quiet o.quiet { o with quiet := true }
  | .verbose => .ok { o with verbose := min mostVerbose (o.verbose + 1) }
  | .help => .error .help
  | .version => .error .version

end TimeWindow.Options

namespace TimeWindow.CommandLine

structure Progress where
  options : Options
  waiting : Option (Valued × Option String)
  deriving DecidableEq, Repr

namespace Progress

def begin : Progress := ⟨{}, none⟩

def settle (p : Progress) : Except Stop Options :=
  match p.waiting with
  | none => .ok p.options
  | some (v, none) => .error (.misuse (.missingValue v))
  | some (v, some text) => p.options.record v text

def switch (p : Progress) (s : Switch) : Except Stop Progress := do
  let o ← (← p.settle).turnOn s
  return ⟨o, none⟩

def attached (p : Progress) (v : Valued) (text : List Char) : Except Stop Progress := do
  let o ← (← p.settle).record v (String.ofList text)
  return ⟨o, none⟩

def await (p : Progress) (v : Valued) : Except Stop Progress := do
  let o ← p.settle
  return ⟨o, some (v, none)⟩

/-- An unknown name, and a value for a switch, count before anything that waits. -/
def long (p : Progress) (name : List Char) (text : Option (List Char)) : Except Stop Progress :=
  match Named.ofName? (String.ofList name), text with
  | none, _ => .error (.misuse (.unexpectedArgument ("--" ++ String.ofList name)))
  | some (.valued v), some text => p.attached v text
  | some (.valued v), none => p.await v
  | some (.switch s), some text => .error (.misuse (.unexpectedValue (String.ofList text) s))
  | some (.switch s), none => p.switch s

/-- Switches, up to an option that takes what is left for its value, with or without `=`. -/
def short (p : Progress) : List Char → Except Stop Progress
  | [] => .ok p
  | c :: rest =>
    match Named.ofLetter? c with
    | none => .error (.misuse (.unexpectedArgument (String.ofList ['-', c])))
    | some (.switch s) => do (← p.switch s).short rest
    | some (.valued v) =>
      match rest with
      | [] => p.await v
      | '=' :: text => p.attached v text
      | text => p.attached v text

def plain (p : Progress) (arg : String) : Except Stop Progress :=
  if p.options.selector.isSome then .error (.misuse (.unexpectedArgument arg)) else do
    let o ← p.settle
    return ⟨{ o with selector := some arg }, none⟩

def fill (p : Progress) (v : Valued) (arg : String) : Progress := { p with waiting := some (v, some arg) }

def readPlain (p : Progress) : List String → Except Stop Options
  | [] => p.settle
  | arg :: rest => do (← p.plain arg).readPlain rest

def read (p : Progress) : List String → Except Stop Options
  | [] => p.settle
  | arg :: rest =>
    match p.waiting, Shape.of arg.toList with
    | some (.start, none), _ => (p.fill .start arg).read rest
    | some (.stop, none), _ => (p.fill .stop arg).read rest
    | _, .ending => p.readPlain rest
    | _, .long name text => do (← p.long name text).read rest
    | _, .short letters => do (← p.short letters).read rest
    | some (.fallback, none), .plain => (p.fill .fallback arg).read rest
    | _, .plain => do (← p.plain arg).read rest

end Progress

def read (args : List String) : Except Stop Options := Progress.begin.read args

end TimeWindow.CommandLine
