/-!
Markup documents.

A document is a tree kept as an array of nodes, the root first; a node is named by its number in
the array. Every parent has a smaller number
than its children, and this is part of the type: walks down a tree end because the numbers grow,
walks up because they shrink.
-/

namespace Harvest.Markup

abbrev Attribute := String × String

inductive NodeKind
  | root
  | element (name : String) (attributes : List Attribute)
  | text (content : String)
  | comment (content : String)
  deriving DecidableEq, Repr, Inhabited

def NodeKind.name? : NodeKind → Option String
  | .element name _ => some name
  | _ => none

def NodeKind.attributes : NodeKind → List Attribute
  | .element _ attributes => attributes
  | _ => []

def NodeKind.isElement : NodeKind → Bool
  | .element _ _ => true
  | _ => false

structure Node where
  kind : NodeKind
  parent : Option Nat
  children : List Nat
  deriving DecidableEq, Repr, Inhabited

/-- A tree of nodes numbered so that parents come before children. -/
@[ext] structure Document where
  nodes : Array Node
  size_pos : 0 < nodes.size
  parent_lt : ∀ (i : Nat) (n : Node), nodes[i]? = some n → ∀ p, n.parent = some p → p < i
  child_gt : ∀ (i : Nat) (n : Node), nodes[i]? = some n →
    ∀ c ∈ n.children, i < c ∧ c < nodes.size

namespace Document

def empty : Document where
  nodes := #[⟨.root, none, []⟩]
  size_pos := by simp
  parent_lt := by
    intro i n h p hp
    rcases i with _ | i
    · simp at h; subst h; simp at hp
    · simp at h
  child_gt := by
    intro i n h c hc
    rcases i with _ | i
    · simp at h; subst h; simp at hc
    · simp at h

instance : Inhabited Document := ⟨empty⟩

instance : DecidableEq Document := fun a b =>
  decidable_of_iff (a.nodes = b.nodes) (by simp [Document.ext_iff])

variable (d : Document)

def size : Nat := d.nodes.size

/-- What a node is; a number beyond the document counts as an empty root. -/
def kind (id : Nat) : NodeKind :=
  match d.nodes[id]? with
  | some n => n.kind
  | none => .root

def parent? (id : Nat) : Option Nat :=
  match d.nodes[id]? with
  | some n => n.parent
  | none => none

def children (id : Nat) : List Nat :=
  match d.nodes[id]? with
  | some n => n.children
  | none => []

def isEmpty : Bool := (d.children 0).isEmpty

def name? (id : Nat) : Option String := (d.kind id).name?

def attributes (id : Nat) : List Attribute := (d.kind id).attributes

def isElement (id : Nat) : Bool := (d.kind id).isElement

def attribute? (id : Nat) (name : String) : Option String :=
  (d.attributes id).lookup name

theorem child_lt {d : Document} {id c : Nat} (h : c ∈ d.children id) :
    id < c ∧ c < d.size := by
  unfold children at h
  split at h
  · next n hn => exact d.child_gt id n hn c h
  · simp at h

theorem lt_of_parent? {d : Document} {id p : Nat} (h : d.parent? id = some p) : p < id := by
  unfold parent? at h
  split at h
  · next n hn => exact d.parent_lt id n hn p h
  · simp at h

/-- The nodes below a node in document order. -/
def descendants (id : Nat) : List Nat :=
  (d.children id).attach.flatMap fun ⟨c, _h⟩ => c :: descendants c
  termination_by d.size - id
  decreasing_by
    have := child_lt _h; omega

def ancestors (id : Nat) : List Nat :=
  match _h : d.parent? id with
  | some p => p :: ancestors p
  | none => []
  termination_by id
  decreasing_by exact lt_of_parent? _h

/-- The last node at or below a node: its last child's last child, and so on. -/
def subtreeEnd (id : Nat) : Nat :=
  match _h : (d.children id).getLast? with
  | some c => subtreeEnd c
  | none => id
  termination_by d.size - id
  decreasing_by
    have := child_lt (List.mem_of_getLast? _h); omega

/-- The character data below a node, in document order. -/
def textBelow (id : Nat) : String :=
  String.join ((d.children id).attach.map fun ⟨c, _h⟩ =>
    match d.kind c with
    | .text content => content
    | .element _ _ => textBelow c
    | _ => "")
  termination_by d.size - id
  decreasing_by
    have := child_lt _h; omega

/-- The string value of a node: the content of a text or comment, else the character data below. -/
def stringValue (id : Nat) : String :=
  match d.kind id with
  | .text content => content
  | .comment content => content
  | _ => d.textBelow id

end Document

end Harvest.Markup
