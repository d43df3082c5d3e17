import Harvest.Html.Token
import Harvest.Markup.Builder

/-!
The tree that HTML text builds.

While it is built, nodes are moved about, so a node knows its parent and its children, and all nodes
stay in one array. Text that comes next to text is added to it. What a template contains hangs on a
fragment of its own and is not part of the document.
-/

namespace Harvest.Html

open Harvest.Markup

inductive Space
  | html | mathml | svg
  deriving DecidableEq, Repr

inductive NodeData
  | document
  | fragment
  | element (space : Space) (name : String) (attributes : List Attribute)
  | text (content : List Char)
  | comment (content : List Char)
  deriving Repr, Inhabited

structure TreeNode where
  data : NodeData
  parent : Option Nat
  children : List Nat
  deriving Repr, Inhabited

/-- The nodes made so far; the first is the document. -/
structure Tree where
  nodes : Array TreeNode

namespace Tree

def empty : Tree := ⟨#[⟨.document, none, []⟩]⟩

def node (t : Tree) (id : Nat) : TreeNode := t.nodes.getD id default

def modify (t : Tree) (id : Nat) (f : TreeNode → TreeNode) : Tree := ⟨t.nodes.modify id f⟩

/-- Adds a node that has no place yet. -/
def create (t : Tree) (data : NodeData) : Tree × Nat :=
  (⟨t.nodes.push ⟨data, none, []⟩⟩, t.nodes.size)

/-- Takes a node out of its place. -/
def detach (t : Tree) (id : Nat) : Tree :=
  match (t.node id).parent with
  | none => t
  | some p =>
    (t.modify p fun n => { n with children := n.children.filter (· != id) }).modify id
      fun n => { n with parent := none }

/-- Puts a node without a place behind the children of another. -/
def append (t : Tree) (parent id : Nat) : Tree :=
  (t.modify parent fun n => { n with children := n.children ++ [id] }).modify id
    fun n => { n with parent := some parent }

def insertBefore (t : Tree) (sibling id : Nat) : Tree :=
  match (t.node sibling).parent with
  | none => t
  | some p =>
    (t.modify p fun n => { n with
      children := n.children.flatMap fun c => if c = sibling then [id, c] else [c] }).modify id
        fun n => { n with parent := some p }

/-- Adds text to a text node; none where the node is none. -/
def extendText? (t : Tree) (id : Nat) (content : List Char) : Option Tree :=
  match (t.node id).data with
  | .text before => some (t.modify id fun n => { n with data := .text (before ++ content) })
  | _ => none

def appendText (t : Tree) (parent : Nat) (content : List Char) : Tree :=
  match (t.node parent).children.getLast?.bind fun last => t.extendText? last content with
  | some t => t
  | none =>
    let (t, id) := t.create (.text content)
    t.append parent id

/-- Puts text in front of a sibling. -/
def insertTextBefore (t : Tree) (sibling : Nat) (content : List Char) : Tree :=
  match (t.node sibling).parent with
  | none => t
  | some p =>
    let earlier := (t.node p).children.takeWhile (· != sibling)
    match earlier.getLast?.bind fun last => t.extendText? last content with
    | some t => t
    | none =>
      let (t, id) := t.create (.text content)
      t.insertBefore sibling id

/-- Moves the children of a node behind those of another. -/
def moveChildren (t : Tree) (source target : Nat) : Tree :=
  let moved := (t.node source).children
  let t := t.modify source fun n => { n with children := [] }
  let t := t.modify target fun n => { n with children := n.children ++ moved }
  moved.foldl (fun t id => t.modify id fun n => { n with parent := some target }) t

/-- Gives an element the attributes whose names it lacks. -/
def addAttributes (t : Tree) (id : Nat) (attributes : List Attribute) : Tree :=
  t.modify id fun n =>
    match n.data with
    | .element space name own =>
      let lacking := attributes.filter fun a => !own.any (·.1 == a.1)
      { n with data := .element space name (own ++ lacking) }
    | _ => n

def elementName? (t : Tree) (id : Nat) : Option (Space × String) :=
  match (t.node id).data with
  | .element space name _ => some (space, name)
  | _ => none

/-- The part of the tree below a node as steps of a builder. The fuel bounds the depth. -/
def steps (t : Tree) : Nat → Nat → List BuildStep
  | 0, _ => []
  | fuel + 1, id =>
    let n := t.node id
    match n.data with
    | .element _ name attributes =>
      .openElement name attributes :: n.children.flatMap (t.steps fuel) ++ [.closeCurrent]
    | .text content => [.text (String.ofList content)]
    | .comment content => [.comment (String.ofList content)]
    | _ => []

/-- The first element of the tree as a document. -/
def toDocument (t : Tree) : Document :=
  match (t.node 0).children.find? fun c => (t.elementName? c).isSome with
  | some root => (Builder.run (t.steps (t.nodes.size + 1) root)).document
  | none => Document.empty

end Tree

end Harvest.Html
