/-!
Faults, which end an execution of a script or a whole crawl.
-/

namespace Harvest

/-- A recoverable fault ends the query at hand; a fatal one halts the crawler. -/
inductive Fault
  | recoverable (reason : String)
  | fatal (reason : String)
  deriving DecidableEq, Repr

namespace Fault

def isFatal : Fault → Bool
  | .recoverable _ => false
  | .fatal _ => true

def reason : Fault → String
  | .recoverable reason => reason
  | .fatal reason => reason

def message : Fault → String
  | .recoverable reason => "Recoverable fault: " ++ reason
  | .fatal reason => "Fatal fault: " ++ reason

def escalate (f : Fault) : Fault := .fatal f.reason

end Fault

end Harvest
