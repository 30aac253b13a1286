import TimeWindow.Bounds
import TimeWindow.Endpoint
import TimeWindow.Selector

namespace TimeWindow

inductive Failure
  | selector : String → Failure
  | fallback : String → Failure
  | endpoint : Endpoint.Error → Failure
  | bounds : Bounds.Fault → Failure
  deriving DecidableEq, Repr

def Failure.message : Failure → String
  | selector token => Selector.refusal token
  | fallback token => "fallback: " ++ Selector.refusal token
  | endpoint e => e.message
  | bounds f => f.message

end TimeWindow
