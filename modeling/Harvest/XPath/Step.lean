import Harvest.Markup.Document
import Harvest.Text.Search
import Harvest.XPath.Expr
import Harvest.XPath.Value

/-!
Where the steps of a location path lead: the axes of a member and the tests on what they list.
-/

namespace Harvest.XPath

open Harvest.Markup Harvest.Text

variable (d : Document)

/-- The nodes of an axis of a tree node, in the order of the axis. Attributes are not among
them. -/
def nodesOn (axis : Axis) (id : Nat) : List Nat :=
  match axis with
  | .child => d.children id
  | .descendant => d.descendants id
  | .descendantOrSelf => id :: d.descendants id
  | .parent => (d.parent? id).toList
  | .ancestor => d.ancestors id
  | .ancestorOrSelf => id :: d.ancestors id
  | .self => [id]
  | .attributes => []
  | .followingSibling =>
    match d.parent? id with
    | some p => ((d.children p).dropWhile (· != id)).tail
    | none => []
  | .precedingSibling =>
    match d.parent? id with
    | some p => ((d.children p).takeWhile (· != id)).reverse
    | none => []
  | .following =>
    let first := d.subtreeEnd id + 1
    List.range' first (d.size - first)
  | .preceding => (List.range' 1 (id - 1)).reverse.filter fun n => !(d.ancestors id).contains n

/-- The members of an axis, in the order of the axis: document order, or nearest first on a
reverse axis. -/
def axisMembers (axis : Axis) (m : Member) : List Member :=
  match m with
  | .node id =>
    match axis with
    | .attributes => (List.range (d.attributes id).length).map (.attr id)
    | axis => (nodesOn d axis id).map .node
  | .attr owner _ =>
    match axis with
    | .parent => [.node owner]
    | .self => [m]
    | .ancestor => (nodesOn d .ancestorOrSelf owner).map .node
    | .ancestorOrSelf => m :: (nodesOn d .ancestorOrSelf owner).map .node
    | .following => (nodesOn d .descendant owner ++ nodesOn d .following owner).map .node
    | .preceding => (nodesOn d .preceding owner).map .node
    | _ => []

def hasQualifier (name qualifier : String) : Bool :=
  let before := name.toList.takeWhile (· != ':')
  before.length < name.toList.length && before == qualifier.toList

/-- Whether a name passes a test that looks at names; the other tests accept no name. -/
def NodeTest.acceptsName (test : NodeTest) (name : String) : Bool :=
  match test with
  | .any => true
  | .name expected => name == expected
  | .qualifier expected => hasQualifier name expected
  | _ => false

/-- Whether a member found on an axis passes a test. Names are looked at only where the axis leads
to what has them: attributes on the attribute axis, elements on any other. -/
def passes (axis : Axis) (test : NodeTest) (m : Member) : Bool :=
  match m with
  | .attr owner index =>
    match (d.attributes owner)[index]? with
    | none => false
    | some (name, _) => test == .node || (axis == .attributes && test.acceptsName name)
  | .node id =>
    match test, d.kind id with
    | .node, _ => true
    | .text, .text _ => true
    | .comment, .comment _ => true
    | test, .element name _ => axis != .attributes && test.acceptsName name
    | _, _ => false

/-- The members that a step without its predicates leads to from `m`. -/
def candidates (axis : Axis) (test : NodeTest) (m : Member) : List Member :=
  (axisMembers d axis m).filter (passes d axis test)

end Harvest.XPath
