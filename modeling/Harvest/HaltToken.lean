/-!
Tokens by which work is asked to stop.

A token is halted once, for one reason. Whoever listens is told that reason once: at the halt, or at
once when listening begins later.
-/

namespace Harvest

/-- Someone who wants to be told of a halt; one who fails when told keeps nobody else from being
told. -/
structure Listener where
  name : String
  fails : Bool
  deriving DecidableEq, Repr

/-- What telling listeners leaves behind, who has been told which reason, and the listener who
fails. -/
abbrev Telling := ExceptT Listener (StateM (List (Listener × String)))

def Listener.hear (l : Listener) (reason : String) : Telling Unit := do
  modify (· ++ [(l, reason)])
  if l.fails then throw l

/-- Tells a listener; its failure goes no further. -/
def tell (reason : String) (l : Listener) : Telling Unit :=
  tryCatch (l.hear reason) fun _ => pure ()

def tellAll (reason : String) : List Listener → Telling Unit
  | [] => pure ()
  | l :: ls => do
    tell reason l
    tellAll reason ls

/-- The reason of the halt, who waits for it, and who has been told which reason, in this order. -/
structure HaltToken where
  reason : Option String
  waiting : List Listener
  calls : List (Listener × String)
  deriving DecidableEq, Repr

namespace HaltToken

def running : HaltToken := ⟨none, [], []⟩

def isHalted (t : HaltToken) : Bool := t.reason.isSome

/-- Halts the token and tells everyone who waits; a halted token stays as it is. -/
def halt (t : HaltToken) (reason : String) : HaltToken :=
  match t.reason with
  | some _ => t
  | none => ⟨some reason, [], (tellAll reason t.waiting t.calls).2⟩

/-- Someone begins to listen, and is told at once if the token is halted. -/
def onHalt (t : HaltToken) (l : Listener) : HaltToken :=
  match t.reason with
  | some reason => { t with calls := (tell reason l t.calls).2 }
  | none => { t with waiting := t.waiting ++ [l] }

def told (t : HaltToken) (l : Listener) : List String :=
  (t.calls.filter (·.1 == l)).map (·.2)

end HaltToken

end Harvest
