import Harvest.Rule.Interpreter
import Harvest.Rule.Plain
import Harvest.Script.Settings
import Harvest.Script.World
import Harvest.Url.Form

/-!
Executions of scripts.

The commands run one after the other, each on the value that the ones before have left, until one of
them yields the absent value. An error makes a command yield the absent value, and more errors than
the settings allow end the execution with a recoverable fault. A fetch is attempted anew as long as
errors are forgiven and nobody halts the work.
-/

namespace Harvest.Script

open Harvest.Rule Harvest.Text

structure Run where
  session : Session
  world : World

abbrev Execution := ExceptT Fault (StateM Run)

def onSession (f : Session → Session) : Execution Unit :=
  modify fun r => { r with session := f r.session }

def onWorld {α : Type} (f : World → α × World) : Execution α := do
  let r : Run ← get
  let (a, world) := f r.world
  set { r with world := world }
  return a

/-- The properties with those that a request parameter stands for: a list stands for one pair for
each text in it, form data for its own pairs, any other text for itself, and a value without a text
for nothing. -/
def pairsOf (bag : PropertyBag) (p : Param) : List (String × String) :=
  match p.value.toList with
  | '$' :: name =>
    match bag.get? (String.ofList name) with
    | none => []
    | some (.list items) => items.filterMap fun item => item.text?.map (p.name, ·)
    | some v =>
      match v.text? with
      | none => []
      | some text =>
        if text.toList.contains '&' && text.toList.contains '=' then Url.formPairs text
        else [(p.name, text)]
  | _ => [(p.name, p.value)]

def tooManyErrors (errors : Nat) (step message : String) : Fault :=
  .recoverable (toString errors ++ " errors in one execution, last in " ++ step ++ ": " ++ message)

variable (settings : Settings) (around : Surroundings)

/-- How many errors the execution at hand still forgives. -/
def Session.forgiven (s : Session) : Nat := settings.maxErrors - s.errors

def logs : Bool := settings.logFolder.isSome && around.logWritable

/-- Counts an error; one that is not forgiven ends the execution. -/
def fail (step message : String) : Execution Unit := do
  let r : Run ← get
  onSession Session.recordError
  if r.session.forgiven settings = 0 then
    throw (tooManyErrors (r.session.errors + 1) step message)

def failing (step message : String) : Execution Value := do
  fail settings step message
  return .null

def put (kind : LogKind) (text : String) : Execution Unit := do
  let number ← onWorld World.draw
  onWorld fun w => ((), w.write settings.logFolder around.logWritable ⟨number, kind, text⟩)

def document (name : String) : Execution Value := do
  let r : Run ← get
  match r.session.bag.get? name with
  | none => failing settings "document" ("property '" ++ name ++ "' is not set")
  | some (.node n) => return .node n
  | some v =>
    match v.text? with
    | some text => return .scalar text
    | none =>
      failing settings "document" ("property '" ++ name ++ "' holds a " ++ v.typeName)

def load (file : String) : Execution Value := do
  let r : Run ← get
  match PropertyBag.resolve? r.session.bag file with
  | none => failing settings "load" "file reference is not set"
  | some file =>
    let path := pathIn settings.fileFolder file
    match ← onWorld (World.load · around path) with
    | .ok text => return .scalar text
    | .error e => failing settings "load" (path ++ ": " ++ e.message)

/-- The document of a text; a node stays as it is. -/
def cleaned (mode : CleanMode) (substitutions : List Substitution) (last : Value) :
    Execution Value :=
  match last with
  | .node n => return .node n
  | last =>
    match clean mode substitutions (last.text?.getD "") with
    | .ok d => return .node (.ofRoot d)
    | .error e => failing settings mode.display e.message

/-- The value that rules extract from a node or a text; any other value counts as the empty text. -/
def parsed (rules : List Rule) (last : Value) : Execution Value := do
  let context : Context := match last with
    | .node n => .node n
    | last => .text (last.text?.getD "")
  let r : Run ← get
  let (outcome, bag) := evaluateAll r.session.base context rules r.session.bag
  onSession fun s => { s with bag := bag }
  match outcome with
  | .ok v => return v
  | .error fault => failing settings "parse" fault.message

/-- The address that a fetch is for; without one, why. -/
def target (s : Session) (c : FetchCommand) (last : Value) : Except String Url :=
  let raw := match c.address with
    | some address => PropertyBag.resolve? s.bag address
    | none => last.text?
  match (raw.map trim).filter (!·.isEmpty) with
  | none => .error "no URL to fetch"
  | some raw =>
    (Url.parse s.base raw).mapError fun e => (Fetch.Error.invalidAddress raw e.message).message

/-- The request of a fetch command, without cookies. -/
def requestOf (s : Session) (c : FetchCommand) (address : Url) : Fetch.Request where
  method := c.method
  address := address.text
  query := c.params.flatMap (pairsOf s.bag)
  form := c.forms.flatMap (pairsOf s.bag)
  cookies := []
  encoding := c.encoding

/-- The request with the cookies of the session, if cookies count. -/
def withCookiesOf (request : Fetch.Request) (s : Session) : Fetch.Request :=
  if s.cookiesEnabled then { request with cookies := s.cookies } else request

def successOf (reply : Except Fetch.Error Fetch.Response) : Except Fetch.Error Fetch.Response := do
  let response ← reply
  if Fetch.isSuccess response.status then return response
  else throw (.status response.status response.address)

/-- The session after a page was fetched: it keeps the cookies, and addresses are relative to where
the page came from. -/
def Session.received (s : Session) (address : Url) (response : Fetch.Response) : Session :=
  { s.addCookies response.cookies with
    base := some ((Url.ofText response.address).toOption.getD address) }

/-- Attempts a fetch, and again after an error as long as one more is forgiven. -/
def attempt (request : Fetch.Request) (address : Url) (forgiven : Nat) : Execution Value := do
  if ← onWorld (World.poll · around) then return .null
  let r : Run ← get
  let sent := withCookiesOf request r.session
  put settings around .url sent.describe
  match successOf (← onWorld fun w => w.fetch around sent) with
  | .ok response =>
    onSession fun s => s.received address response
    return .scalar response.body
  | .error e =>
    onSession Session.recordError
    match forgiven with
    | 0 => throw (tooManyErrors (r.session.errors + 1) "fetch" e.message)
    | forgiven + 1 => attempt request address forgiven

/-- Fetches a page. On a page where the command does not count, the value at hand stays, or the
empty text where there is none. -/
def fetched (c : FetchCommand) (last : Value) : Execution Value := do
  let r : Run ← get
  if !c.runsOn r.session.page then
    return if last.isNull then .scalar "" else last
  match target r.session c last with
  | .error message => failing settings "fetch" message
  | .ok address =>
    attempt settings around (requestOf r.session c address) address
      (r.session.forgiven settings)

def step (c : Command) (last : Value) : Execution Value := do
  match c with
  | .document name => document settings name
  | .load file => load settings around file
  | .useCookies => do
    onSession Session.enableCookies
    return last
  | .fetch command => fetched settings around command last
  | .clean mode substitutions => cleaned settings mode substitutions last
  | .structured => do
    if let .node n := last then put settings around .structured n.toMarkup
    return last
  | .parse rules => parsed settings rules last
  | .save => do
    put settings around .save (last.toJson.pretty 0)
    return last

/-- Runs commands on the value at hand, unless the work is halted. -/
def steps (last : Value) : List Command → Execution Value
  | [] => return last
  | c :: cs => do
    if ← onWorld (World.poll · around) then return .null
    onWorld fun w => ((), w.record (.command c last))
    let v ← step settings around c last
    if c.producesValue && v.isNull then return v else steps v cs

def phaseOf : Except Fault Value → Phase
  | .ok v => if v.isNull then .aborted else .done
  | .error _ => .aborted

def execute (script : Script) (start : Run) : Except Fault Value × Run :=
  let session := start.session.beginExecution
  let (number, world) := (start.world.record (.began script start.session)).draw
  let (outcome, r) := steps settings around .null script.commands ⟨session, world⟩
  let world := r.world.record (.ended outcome)
  let world := match outcome with
    | .ok v => world.write settings.logFolder around.logWritable ⟨number, .result, v.toJson.pretty 0⟩
    | .error _ => world
  (outcome, ⟨r.session.finishExecution (phaseOf outcome), world⟩)

end Harvest.Script
