import Harvest.Cleaning
import Harvest.Rule.Tree
import Harvest.Rule.Value
import Harvest.Url.Parser
import Harvest.XPath.Eval

/-!
Evaluation of rules.

A rule is evaluated in a context, a node or a text, and yields a value. It reads and sets properties
on the way. A rule that does not apply to its context, whose query is malformed or which finds
nothing yields the absent value. The only failure is a text that has to be read as a document and
is blank; the properties set until then stay set.
-/

namespace Harvest.Rule

open Harvest.Markup Harvest.Text

inductive Context
  | node (node : NodeRef)
  | text (content : String)

def Context.toValue : Context → Value
  | .node r => .node r
  | .text content => .scalar content

/-- What an operator yields in a context of a kind that it does not work on: a text passes through
operators on nodes, a node does not pass through operators on texts. -/
def Context.passedOver : Context → Value
  | .node _ => .null
  | .text content => .scalar content

/-- A text cannot be read as a document for an operator. -/
structure ParseFault where
  operator : Operator
  cause : Markup.Error
  deriving DecidableEq, Repr

def ParseFault.reason (fault : ParseFault) : String := fault.cause.message

def ParseFault.message (fault : ParseFault) : String :=
  "Cannot re-parse context as a tree during <" ++ fault.operator.tag ++ ">: " ++ fault.reason

abbrev Evaluation := ExceptT ParseFault (StateM PropertyBag)

/-- What an attribute says with properties put in; none where it is not there or has no text. -/
def attr? (attributes : SortedMap String) (name : String) : Evaluation (Option String) := do
  let bag : PropertyBag ← get
  return (attributes.get? name).bind bag.resolve?

/-- The query of a rule; none where it has none or a malformed one. -/
def query? (attributes : SortedMap String) : Evaluation (Option XPath.Compiled) := do
  let source ← attr? attributes "xpath"
  return source.bind fun s => (XPath.Compiled.ofText s).toOption

def selected? (attributes : SortedMap String) (node : NodeRef) :
    Evaluation (Option (List NodeRef)) := do
  let x ← query? attributes
  return x.bind fun x => (x.select node).toOption

/-- The text that the query of a rule yields, trimmed; a blank one does not count. -/
def queried? (attributes : SortedMap String) (node : NodeRef) : Evaluation (Option String) := do
  let x ← query? attributes
  let content := x.bind fun x => (x.evaluateText node).toOption
  return (content.map trim).filter (!·.isEmpty)

def regex? (attributes : SortedMap String) (name : String) :
    Evaluation (Option Regex.Expression) := do
  let source ← attr? attributes name
  return source.bind Regex.Expression.ofText?

/-- The node of a context; a text is read as HTML. -/
def treeOf (op : Operator) : Context → Evaluation NodeRef
  | .node node => return node
  | .text content =>
    match clean .html [] content with
    | .ok d => return NodeRef.ofRoot d
    | .error e => throw ⟨op, e⟩

/-- The values that are not absent as a list; none at all are absent together. -/
def listOf (values : List Value) : Value :=
  match values.filter (!·.isNull) with
  | [] => .null
  | present => .list present

/-- The entries as a map; none at all are absent together. -/
def mapOf : List (String × Value) → Value
  | [] => .null
  | entries => .map entries

/-- The texts of a value and its members, trimmed, the blank ones left out, with a separator between
each two. -/
def joined (separator : String) (v : Value) : String :=
  join separator (((v.items.filterMap Value.text?).map trim).filter (!·.isEmpty))

/-- The parts of a text between delimiters, each a character of `delimiters`, or between blanks
where that is empty or none. -/
def tokens (delimiters : Option String) (content : String) : List String :=
  let delimiters := (delimiters.getD "").toList
  let parts := if delimiters.isEmpty then words content.toList
    else runs (delimiters.contains ·) content.toList
  parts.map String.ofList

/-- What the searches of a group have found: entries by key, and the last value. -/
structure Found where
  entries : List (String × Value)
  last : Value

namespace Found

def nothing : Found := ⟨[], .null⟩

/-- Keeps a value under a key, unless there is one already. -/
def keep (f : Found) (key : String) (value : Value) : Found :=
  if (f.entries.lookup key).isSome then f else { f with entries := insertEntry key value f.entries }

def result (f : Found) : Operator → Value
  | .find => mapOf f.entries
  | _ => f.last

end Found

/-- What a search matched: the first group if it took part, else the whole. -/
def matchedText (m : Regex.Match) : String :=
  ((m.groups[1]?).getD none).getD (((m.groups[0]?).getD none).getD "")

variable (base : Option Url)

mutual

def evaluate (context : Context) (r : Rule) : Evaluation Value :=
  match r with
  | .mk op attributes children =>
    match op with
    | .context => evaluateFirst context context.toValue children
    | .verify => do
      let node ← treeOf .verify context
      if ← checksHold node children then afterChecks node children else return .null
    | .expect =>
      match context with
      | .text content => do
        match ← regex? attributes "regex" with
        | some e => return if e.isMatch content then context.toValue else .null
        | none => return .null
      | .node node => do
        if ← expectationHolds node attributes children then return context.toValue
        else return .null
    | .extract =>
      match context with
      | .text _ => return context.passedOver
      | .node _ => do
        match ← extractAll context [] children with
        | some entries => return mapOf entries
        | none => return .null
    | .property =>
      match context with
      | .text _ => return context.passedOver
      | .node _ => propertyAll context none children
    | .iterate => do
      let node ← treeOf .iterate context
      match ← selected? attributes node with
      | none => return .null
      | some items =>
        let values ← items.mapM fun item =>
          evaluateFirst (.node item.standalone) (.node item.standalone) children
        return listOf values
    | .collect =>
      match children with
      | [] => return context.passedOver
      | source :: rest => do
        let separator ← attr? attributes "separator"
        let text := joined (separator.getD " ") (← evaluate context source)
        if text.isEmpty then return .null else chain text rest
    | .concat =>
      match context with
      | .text _ => return context.passedOver
      | .node node => do
        if (attributes.get? "xpath").isNone then chain (trim node.textContent) children
        else
          match ← selected? attributes node with
          | some (first :: _) => chain (trim first.textContent) children
          | _ => return .null
    | .text =>
      match context with
      | .text _ => return context.passedOver
      | .node node => do
        match ← queried? attributes node with
        | some content => chain content children
        | none => return .null
    | .url =>
      match context with
      | .text _ => return context.passedOver
      | .node node => do
        match ← queried? attributes node with
        | none => return .null
        | some content =>
          match Url.parse base content with
          | .ok address => return .url address
          | .error _ => return .null
    | .substitute =>
      match context with
      | .node _ => return context.passedOver
      | .text content => do
        match ← regex? attributes "pattern" with
        | none => return .null
        | some e =>
          let template ← attr? attributes "replacewith"
          chain (e.replaceAll content (template.getD "")) children
    | .split =>
      match context with
      | .node _ => return context.passedOver
      | .text content => do
        let delimiters ← attr? attributes "delimiter"
        let values ← (tokens delimiters content).mapM fun token =>
          evaluateFirst (.text token) (.scalar token) children
        return listOf values
    | .find =>
      match context with
      | .node _ => return context.passedOver
      | .text content => do
        let found ← searchFor .find content attributes Found.nothing children
        return found.result .find
    | .findOne =>
      match context with
      | .node _ => return context.passedOver
      | .text content => do
        let found ← searchFor .findOne content attributes Found.nothing children
        return found.result .findOne

/-- The value of the first rule of a row, or `otherwise` where there is none. -/
def evaluateFirst (context : Context) (otherwise : Value) (rules : List Rule) : Evaluation Value :=
  match rules with
  | [] => return otherwise
  | r :: _ => evaluate context r

/-- What becomes of a text: a search that comes first searches it together with the other rules of
its operator, else the first rule is evaluated in it. -/
def chain (content : String) (rules : List Rule) : Evaluation Value :=
  match rules with
  | [] => return .scalar content
  | .mk op attributes children :: rs =>
    if op.isSearch then do
      let found ← searchFor op content attributes Found.nothing children
      let found ← searchAll op content found rs
      return found.result op
    else evaluate (.text content) (.mk op attributes children)

/-- Whether a node passes the regular expression of an expectation: on the text of the rule inside
it, or else on its own. -/
def expectationHolds (node : NodeRef) (attributes : SortedMap String) (children : List Rule) :
    Evaluation Bool := do
  match ← regex? attributes "regex" with
  | none => return false
  | some e =>
    match children with
    | [] => return e.isMatch node.textContent
    | r :: _ =>
      let v ← evaluate (.node node) r
      return e.isMatch (v.text?.getD "")

def checksHold (node : NodeRef) (rules : List Rule) : Evaluation Bool :=
  match rules with
  | [] => return true
  | .mk op attributes children :: rs =>
    if op = .expect then do
      if ← expectationHolds node attributes children then checksHold node rs else return false
    else checksHold node rs

/-- The value of the first rule of a row that is no expectation, or the node where there is none. -/
def afterChecks (node : NodeRef) (rules : List Rule) : Evaluation Value :=
  match rules with
  | [] => return .node node
  | r :: rs => if r.op = .expect then afterChecks node rs else evaluate (.node node) r

/-- The entries of a row of rules: a rule with a key adds its value, any other one the entries of a
map. None where a verification without a key yields nothing. -/
def extractAll (context : Context) (entries : List (String × Value)) (rules : List Rule) :
    Evaluation (Option (List (String × Value))) :=
  match rules with
  | [] => return some entries
  | r :: rs => do
    match ← attr? r.attributes "key" with
    | some key =>
      let v ← evaluate context r
      extractAll context (if v.isNull then entries else insertEntry key v entries) rs
    | none =>
      match ← evaluate context r with
      | .null => if r.op = .verify then return none else extractAll context entries rs
      | .map more =>
        extractAll context (more.foldl (fun acc e => insertEntry e.1 e.2 acc) entries) rs
      | _ => extractAll context entries rs

/-- Sets the properties that rules with a name yield. The value is that of the first rule without a
name; if that is a verification that yields nothing, the rest is skipped. -/
def propertyAll (context : Context) (result : Option Value) (rules : List Rule) :
    Evaluation Value :=
  match rules with
  | [] => return result.getD context.toValue
  | r :: rs => do
    match ← attr? r.attributes "name" with
    | some name =>
      let v ← evaluate context r
      modify fun bag : PropertyBag => bag.set name v
      propertyAll context result rs
    | none =>
      match result with
      | some v => propertyAll context (some v) rs
      | none =>
        let v ← evaluate context r
        if v.isNull && r.op == .verify then return .null else propertyAll context (some v) rs

def searchFor (op : Operator) (content : String) (attributes : SortedMap String) (found : Found)
    (children : List Rule) : Evaluation Found := do
  match (← regex? attributes "pattern").bind (·.firstMatch? content) with
  | none => return found
  | some m =>
    let matched := matchedText m
    let v ← match children with
      | [] => pure (.scalar matched)
      | r :: _ => evaluate (.text matched) r
    if v.isNull then return found
    else if op = .find then
      match ← attr? attributes "key" with
      | some key => return found.keep key v
      | none => return found
    else return { found with last := v }

def searchAll (op : Operator) (content : String) (found : Found) (rules : List Rule) :
    Evaluation Found :=
  match rules with
  | [] => return found
  | .mk other attributes children :: rs =>
    if other = op then do
      let found ← searchFor op content attributes found children
      searchAll op content found rs
    else searchAll op content found rs

end

/-- The value of the last rule of a row, or of a verification that yields nothing and so ends it. -/
def evaluateSequence (context : Context) (result : Value) : List Rule → Evaluation Value
  | [] => return result
  | r :: rs => do
    let v ← evaluate base context r
    if v.isNull && r.op == .verify then return .null else evaluateSequence context v rs

/-- The value of a row of rules: searches that come first search together, else the rules are
evaluated one after the other. -/
def evaluateAll (context : Context) (rules : List Rule) : Evaluation Value :=
  match rules with
  | [] => return context.toValue
  | r :: rs =>
    if r.op.isSearch then
      match context with
      | .node _ => return context.passedOver
      | .text content => do
        let found ← searchAll base r.op content Found.nothing (r :: rs)
        return found.result r.op
    else evaluateSequence base context context.toValue (r :: rs)

end Harvest.Rule
