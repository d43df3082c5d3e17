import Harvest.Decimal
import Harvest.Markup.Document
import Harvest.Text.Blank
import Harvest.Text.Letter

/-!
Values of XPath expressions and their conversions.

A value is a node-set, a string, a number or a truth value. The members of a node-set are nodes of
the tree and attributes; in document order the attributes of an element stand between it and its
children.
-/

namespace Harvest.XPath

open Harvest.Markup Harvest.Text

inductive Member
  | node (id : Nat)
  /-- The attribute at an index of an element. -/
  | attr (owner index : Nat)
  deriving DecidableEq, Repr

/-- The place of a member in document order: its node and how far behind it. -/
def Member.orderKey : Member → Nat × Nat
  | .node id => (id, 0)
  | .attr owner index => (owner, index + 1)

def Member.notAfter (a b : Member) : Bool :=
  a.orderKey.1 < b.orderKey.1 || (a.orderKey.1 == b.orderKey.1 && a.orderKey.2 ≤ b.orderKey.2)

/-- Members in document order, each once. -/
def documentOrder (members : List Member) : List Member :=
  (members.mergeSort Member.notAfter).eraseReps

inductive Value
  | nodes (members : List Member)
  | text (content : String)
  | number (value : Float)
  | truth (value : Bool)
  deriving Repr, Inhabited

def Value.typeName : Value → String
  | .nodes _ => "node-set"
  | .text _ => "string"
  | .number _ => "number"
  | .truth _ => "boolean"

/-- The number that a text stands for: digits with at most one point and a minus sign before them,
blanks around left out of account; a NaN for any other text. -/
def readNumber (s : String) : Float :=
  let cs := trimChars s.toList
  let (negative, digits) := match cs with
    | '-' :: rest => (true, rest)
    | _ => (false, cs)
  if digits.any isAsciiDigit && digits.all (fun c => isAsciiDigit c || c == '.') &&
      digits.count '.' ≤ 1 then
    let magnitude := Decimal.readDigits digits
    if negative then -magnitude else magnitude
  else 0.0 / 0.0

/-- The text of a number; a zero has no sign. -/
def writeNumber (x : Float) : String :=
  if x.isNaN then "NaN"
  else if x.isInf then (if x > 0 then "Infinity" else "-Infinity")
  else if x == 0 then "0"
  else Decimal.ofFloat x

variable (d : Document)

def Member.stringValue : Member → String
  | .node id => d.stringValue id
  | .attr owner index => ((d.attributes owner)[index]?.map (·.2)).getD ""

def Member.name : Member → String
  | .node id => (d.name? id).getD ""
  | .attr owner index => ((d.attributes owner)[index]?.map (·.1)).getD ""

namespace Value

def atomText : Value → String
  | .nodes _ => ""
  | .text content => content
  | .number x => writeNumber x
  | .truth b => if b then "true" else "false"

def atomNumber : Value → Float
  | .nodes _ => 0.0 / 0.0
  | .text content => readNumber content
  | .number x => x
  | .truth b => if b then 1 else 0

/-- The value as a string; a node-set counts by its first member. -/
def toText : Value → String
  | .nodes members => (members.head?.map (Member.stringValue d)).getD ""
  | v => v.atomText

/-- The value as a number; a node-set counts by the string of its first member. -/
def toNumber : Value → Float
  | .nodes members => readNumber (toText d (.nodes members))
  | v => v.atomNumber

def toTruth : Value → Bool
  | .nodes members => !members.isEmpty
  | .text content => !content.isEmpty
  | .number x => x != 0 && !x.isNaN
  | .truth b => b

end Value

end Harvest.XPath
