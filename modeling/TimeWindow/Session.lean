import TimeWindow.Request
import TimeWindow.Resolution

namespace TimeWindow

structure Session where
  now : Millis
  bounds : Bounds
  deriving DecidableEq, Repr

namespace Session

inductive Step
  | setNow : Millis → Step
  | back : Int64 → Step
  | start : String → Step
  | stop : String → Step
  | clear : Step
  | check : Step
  | resolve : String → Step
  | zoom : String → Step
  | shift : String → Step
  deriving DecidableEq, Repr

inductive Answer
  | done : Answer
  | located : Except Endpoint.Error Millis → Answer
  | checked : Except Bounds.Fault (Millis × Millis) → Answer
  | resolved : String → Option Window → Answer
  | refused : Endpoint.Error → Answer

structure Reply where
  session : Session
  answer : Answer
  events : List Event

def begin (now : Millis) : Session := ⟨now, .absent⟩

def locate (s : Session) (input : String) (set : Bounds → Millis → Bounds) : Reply :=
  match (Endpoint.read input (.fixed s.now)).1 with
  | .ok t => ⟨{ s with bounds := set s.bounds t }, .located (.ok t), []⟩
  | .error e => ⟨s, .located (.error e), []⟩

/-- Moves both bounds by the same text, each read as if the present were the bound itself. -/
def shift (s : Session) (input : String) : Reply :=
  let (start, stop) := s.bounds.filled
  match (Endpoint.read input (.fixed start)).1, (Endpoint.read input (.fixed stop)).1 with
  | .ok start, .ok stop => ⟨{ s with bounds := ⟨some start, some stop⟩ }, .done, []⟩
  | .error e, _ => ⟨s, .refused e, []⟩
  | .ok _, .error e => ⟨s, .refused e, []⟩

def resolveToken (s : Session) (token : String) : Report (Option Window) :=
  Selector.resolveToken token (some s.bounds) (.fixed s.now)

def zoomTo (s : Session) (w : Window) : Session :=
  { s with bounds := ⟨some w.firstMillis, some w.lastMillis⟩ }

def step (s : Session) : Step → Reply
  | .setNow now => ⟨{ s with now }, .done, []⟩
  | .back minutes => ⟨{ s with now := minutesBefore s.now minutes }, .done, []⟩
  | .start input => s.locate input fun b t => { b with start := some t }
  | .stop input => s.locate input fun b t => { b with stop := some t }
  | .clear => ⟨{ s with bounds := .absent }, .done, []⟩
  | .check => ⟨s, .checked s.bounds.check, []⟩
  | .resolve token =>
    let r := s.resolveToken token
    ⟨s, .resolved token r.value, r.events⟩
  | .zoom token =>
    let r := s.resolveToken token
    ⟨match r.value with | some w => s.zoomTo w | none => s, .resolved token r.value, r.events⟩
  | .shift input => s.shift input

def steps (s : Session) : List Step → List Reply
  | [] => []
  | first :: rest =>
    let r := s.step first
    r :: r.session.steps rest

end Session

end TimeWindow
