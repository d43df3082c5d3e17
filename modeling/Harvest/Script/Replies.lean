import Harvest.Fetch.Error
import Harvest.Fetch.Request

/-!
Replies prepared beforehand, with which scripts can be run without any source.
-/

namespace Harvest.Script

open Harvest.Fetch

/-- A prepared reply: a page at the requested address, a response as it is, or an error. -/
inductive Reply
  | page (body : String)
  | response (r : Response)
  | error (e : Error)
  deriving DecidableEq, Repr

def Reply.answer (request : Request) : Reply → Except Error Response
  | .page body => .ok ⟨200, request.address, body, []⟩
  | .response r => .ok r
  | .error e => .error e

/-- Replies that are given one after the other, and the one that is given from then on. -/
structure Replies where
  queue : List Reply
  fallback : Option Reply
  deriving DecidableEq, Repr

/-- The answer to the request with the given index. Where no reply is left, nothing arrives. -/
def Replies.answer (r : Replies) (index : Nat) (request : Request) : Except Error Response :=
  match r.queue[index]?.or r.fallback with
  | some reply => reply.answer request
  | none => .error (.transport request.address "no scripted reply")

/-- What is answered when nobody listens at all. -/
def refused : Reply := .error (.transport "scripted" "connection refused")

end Harvest.Script
