import Harvest.Rule.Value

/-!
Sessions: what the executions for one query have in common.
-/

namespace Harvest.Script

inductive Phase
  | init
  | running
  | done
  | aborted
  deriving DecidableEq, Repr

def Phase.name : Phase → String
  | .init => "init"
  | .running => "running"
  | .done => "done"
  | .aborted => "aborted"

/-- The page at hand, the cookies, the errors of the execution, the address that others are relative
to, and the properties. -/
structure Session where
  page : Nat
  cookiesEnabled : Bool
  cookies : List String
  errors : Nat
  base : Option Url
  phase : Phase
  bag : Rule.PropertyBag

namespace Session

def initial : Session := ⟨1, false, [], 0, none, .init, .empty⟩

variable (s : Session)

/-- The session with cookies from elsewhere, which count from the start. -/
def withCookies (cookies : List String) : Session :=
  { s with cookiesEnabled := true, cookies := cookies }

def enableCookies : Session := { s with cookiesEnabled := true }

/-- Keeps cookies, if cookies count. -/
def addCookies (cookies : List String) : Session :=
  if s.cookiesEnabled then { s with cookies := s.cookies ++ cookies } else s

def recordError : Session := { s with errors := s.errors + 1 }

def setProperty (name : String) (value : Rule.Value) : Session :=
  { s with bag := Rule.PropertyBag.set s.bag name value }

def beginExecution : Session := { s with errors := 0, phase := .running }

/-- The session after an execution, which counts as a page. -/
def finishExecution (phase : Phase) : Session := { s with phase := phase, page := s.page + 1 }

end Session

end Harvest.Script
