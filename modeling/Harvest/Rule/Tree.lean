import Harvest.Xml.Element

/-!
Rules as trees of operators, and how they are loaded from XML.
-/

namespace Harvest

inductive LoadError
  | element (error : Xml.ElementError)
  /-- The root element is no script. -/
  | noScript
  | unknownOperator (tag : String)
  | unknownCommand (tag : String)
  | missingAttribute (tag name : String)
  | invalidAttribute (tag name reason : String)
  /-- A pattern to replace is no regular expression. -/
  | unreadablePattern (pattern : String)
  deriving DecidableEq, Repr

def LoadError.message : LoadError → String
  | .element (.malformed problem) => "Malformed script XML: " ++ problem.message
  | .element (.unclosed tag) => "Malformed script XML: unclosed element <" ++ tag ++ ">"
  | .element .missingRoot => "Script document has no <script> root element"
  | .noScript => "Script document has no <script> root element"
  | .unknownOperator tag => "Unknown operator <" ++ tag ++ ">"
  | .unknownCommand tag => "Unknown command <" ++ tag ++ ">"
  | .missingAttribute tag name => "Missing attribute '" ++ name ++ "' on <" ++ tag ++ ">"
  | .invalidAttribute tag name reason =>
    "Invalid attribute '" ++ name ++ "' on <" ++ tag ++ ">: " ++ reason
  | .unreadablePattern pattern =>
    "Invalid attribute 'pattern' on <replace>: '" ++ pattern ++ "' is no regular expression"

namespace Rule

inductive Operator
  | context
  | verify
  | expect
  | extract
  | property
  | iterate
  | collect
  | concat
  | text
  | url
  | substitute
  | split
  | find
  | findOne
  deriving DecidableEq, Repr, Inhabited

namespace Operator

def ofTag? : String → Option Operator
  | "context" => some .context
  | "verify" => some .verify
  | "expect" => some .expect
  | "extract" => some .extract
  | "property" => some .property
  | "iterate" => some .iterate
  | "collect" => some .collect
  | "concat" => some .concat
  | "text" => some .text
  | "url" => some .url
  | "substitute" => some .substitute
  | "split" => some .split
  | "find" => some .find
  | "findone" => some .findOne
  | _ => none

def tag : Operator → String
  | .context => "context"
  | .verify => "verify"
  | .expect => "expect"
  | .extract => "extract"
  | .property => "property"
  | .iterate => "iterate"
  | .collect => "collect"
  | .concat => "concat"
  | .text => "text"
  | .url => "url"
  | .substitute => "substitute"
  | .split => "split"
  | .find => "find"
  | .findOne => "findone"

def required : Operator → List String
  | .iterate => ["xpath"]
  | .text => ["xpath"]
  | .url => ["xpath"]
  | .substitute => ["pattern"]
  | .findOne => ["pattern"]
  | .find => ["key", "pattern"]
  | .expect => ["regex"]
  | _ => []

/-- Whether rules with the operator search a text together with their neighbours. -/
def isSearch : Operator → Bool
  | .find => true
  | .findOne => true
  | _ => false

end Operator

end Rule

inductive Rule
  | mk (op : Rule.Operator) (attributes : SortedMap String) (children : List Rule)

namespace Rule

def op : Rule → Operator
  | .mk op _ _ => op

def attributes : Rule → SortedMap String
  | .mk _ attributes _ => attributes

def children : Rule → List Rule
  | .mk _ _ children => children

def attribute? (r : Rule) (name : String) : Option String := r.attributes.get? name

mutual

def ofElement (e : Xml.Element) : Except LoadError Rule :=
  match e with
  | .mk tag attributes children =>
    match Operator.ofTag? tag with
    | none => .error (.unknownOperator tag)
    | some op =>
      match op.required.find? fun name => !attributes.contains name with
      | some name => .error (.missingAttribute op.tag name)
      | none => do
        let children ← ofElements children
        return .mk op attributes children

/-- The rules that a row of elements describes; the first failure counts. -/
def ofElements (es : List Xml.Element) : Except LoadError (List Rule) :=
  match es with
  | [] => .ok []
  | e :: es => do
    let r ← ofElement e
    let rs ← ofElements es
    return r :: rs

end

def ofText (source : String) : Except LoadError Rule := do
  let e ← (Xml.Element.parse source).mapError .element
  ofElement e

end Rule

end Harvest
