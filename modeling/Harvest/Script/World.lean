import Harvest.Fault
import Harvest.Fetch.Error
import Harvest.HaltToken
import Harvest.Script.Command
import Harvest.Script.Resource
import Harvest.Script.Session

/-!
What executions meet outside, and what they leave there.

The surroundings answer requests, hold the files and may halt the work while a page is being fetched
or just before the halt token is asked. The world keeps the halt token, the log and the history of
all that executions did, in the order in which they did it.

The log is written to the file system that files are loaded from. What is written there, or tried to
be, may therefore change what a file that is loaded later holds, or whether there is one.
-/

namespace Harvest.Script

/-- When someone else may halt the work: just before the token is asked for the given time, or while
the given request is being answered. Both are counted from zero. Halting is cooperative: an
execution lets nobody else have a turn between asking the token and sending the request that it asks
for, so that no halt falls there. -/
inductive Moment
  | poll (index : Nat)
  | fetch (index : Nat)
  deriving DecidableEq, Repr

/-- What executions do, and what happens to them: a command comes with the value at hand when it
begins, a script with the session. -/
inductive Event
  | halted (reason : String)
  | began (script : Script) (session : Session)
  | command (c : Command) (last : Rule.Value)
  | fetched (request : Fetch.Request) (reply : Except Fetch.Error Fetch.Response)
  | ended (outcome : Except Fault Rule.Value)

def Event.request? : Event → Option Fetch.Request
  | .fetched request _ => some request
  | _ => none

inductive LogKind
  | url
  | result
  | structured
  | save
  deriving DecidableEq, Repr

def LogKind.name : LogKind → String
  | .url => "url"
  | .result => "result"
  | .structured => "structured"
  | .save => "save"

/-- An entry of the log under the number that was drawn for it. -/
structure LogEntry where
  number : Nat
  kind : LogKind
  text : String
  deriving DecidableEq, Repr

/-- An entry that was written to a folder, or that someone tried to write there. -/
structure Writing where
  folder : String
  entry : LogEntry
  deriving DecidableEq, Repr

/-- What answers the requests, halts the work and holds the files. The files are those after the
given writings, which may have made folders and files, or have failed. -/
structure Surroundings where
  reply : Nat → Fetch.Request → Except Fetch.Error Fetch.Response
  halt? : Moment → Option String
  files : List Writing → FileStore
  logWritable : Bool

/-- The halt token and how often it has been asked, how many numbers have been drawn for the log,
the log and all that was written for it, the paths of the files that were loaded, and the history,
oldest events first. -/
structure World where
  token : HaltToken
  polls : Nat
  drawn : Nat
  log : List LogEntry
  writings : List Writing
  loads : List String
  history : List Event

namespace World

def initial (listeners : List Listener) : World :=
  ⟨⟨none, listeners, []⟩, 0, 0, [], [], [], []⟩

variable (w : World)

def isHalted : Bool := w.token.isHalted

def requests : List Fetch.Request := w.history.filterMap Event.request?

def record (e : Event) : World := { w with history := w.history ++ [e] }

def halt (reason : String) : World :=
  if w.isHalted then w else { w.record (.halted reason) with token := w.token.halt reason }

/-- Someone else halts the work, or nobody does. -/
def interrupt (reason : Option String) : World :=
  match reason with
  | some reason => w.halt reason
  | none => w

def poll (around : Surroundings) : Bool × World :=
  let asked := { w.interrupt (around.halt? (.poll w.polls)) with polls := w.polls + 1 }
  (asked.isHalted, asked)

def fetch (around : Surroundings) (request : Fetch.Request) :
    Except Fetch.Error Fetch.Response × World :=
  let index := w.requests.length
  let reply := around.reply index request
  (reply, (w.record (.fetched request reply)).interrupt (around.halt? (.fetch index)))

def draw : Nat × World := (w.drawn, { w with drawn := w.drawn + 1 })

/-- Writes an entry to a folder, if there is one; it is in the log if the folder can be written. -/
def write (folder : Option String) (writable : Bool) (entry : LogEntry) : World :=
  match folder with
  | none => w
  | some folder =>
    { w with
      writings := w.writings ++ [⟨folder, entry⟩]
      log := if writable then w.log ++ [entry] else w.log }

def load (around : Surroundings) (path : String) : Except FileProblem String × World :=
  ((around.files w.writings).read path, { w with loads := w.loads ++ [path] })

end World

end Harvest.Script
