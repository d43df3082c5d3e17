/-!
XPath expressions as trees.
-/

namespace Harvest.XPath

/-- The directions in which a step looks from a node. -/
inductive Axis
  | child | descendant | descendantOrSelf
  | parent | ancestor | ancestorOrSelf
  | self | attributes
  | followingSibling | precedingSibling
  | following | preceding
  deriving DecidableEq, Repr

def Axis.names : List (String × Axis) :=
  [("child", .child), ("descendant", .descendant), ("descendant-or-self", .descendantOrSelf),
    ("parent", .parent), ("ancestor", .ancestor), ("ancestor-or-self", .ancestorOrSelf),
    ("self", .self), ("attribute", .attributes), ("following-sibling", .followingSibling),
    ("preceding-sibling", .precedingSibling), ("following", .following),
    ("preceding", .preceding)]

def Axis.ofName? (name : String) : Option Axis := Axis.names.lookup name

/-- Whether the axis lists its nodes nearest first, against document order. -/
def Axis.isReverse : Axis → Bool
  | .parent | .ancestor | .ancestorOrSelf | .precedingSibling | .preceding => true
  | _ => false

inductive NodeTest
  /-- A qualified name in lower case. -/
  | name (text : String)
  /-- Any name with that qualifier. -/
  | qualifier (text : String)
  | any
  | text
  | comment
  | node
  deriving DecidableEq, Repr

inductive BinaryOp
  | or | and | eq | ne | lt | le | gt | ge | add | sub | mul | div | mod
  deriving DecidableEq, Repr

mutual

inductive Expr
  | literal (content : String)
  | number (value : Float)
  | negate (operand : Expr)
  | binary (op : BinaryOp) (left right : Expr)
  | union (left right : Expr)
  | function (name : String) (args : List Expr)
  /-- A location path, from the root or from the context node. -/
  | path (absolute : Bool) (steps : List Step)
  /-- An expression narrowed by predicates and followed by steps. -/
  | filter (primary : Expr) (predicates : List Expr) (steps : List Step)

inductive Step
  | mk (axis : Axis) (test : NodeTest) (predicates : List Expr)

end

instance : Inhabited Expr := ⟨.literal ""⟩

namespace Step

def axis : Step → Axis
  | .mk axis _ _ => axis

def test : Step → NodeTest
  | .mk _ test _ => test

def predicates : Step → List Expr
  | .mk _ _ predicates => predicates

/-- The step that a double slash stands for. -/
def anyDepth : Step := .mk .descendantOrSelf .node []

/-- The step that a dot stands for. -/
def here : Step := .mk .self .node []

/-- The step that two dots stand for. -/
def up : Step := .mk .parent .node []

end Step

end Harvest.XPath
