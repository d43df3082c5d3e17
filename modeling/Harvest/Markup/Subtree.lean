import Harvest.Markup.Builder
import Harvest.Markup.Printer

/-!
Copies of parts of a document, and references to nodes.

A subtree is copied by handing a builder the same steps that would have built it. A reference is a
document with a node of it; its standalone form refers to a copy in which nothing else can be
reached.
-/

namespace Harvest.Markup

/-- Builds a copy of a node and of all below it at the current place of a builder. -/
def Builder.copy (b : Builder) (d : Document) (id : Nat) : Builder :=
  match d.kind id with
  | .root => b
  | .element name attributes =>
    ((d.children id).attach.foldl (fun b ⟨c, _h⟩ => b.copy d c)
      (b.openElement name attributes)).closeCurrent
  | .text content => b.text content
  | .comment content => b.comment content
  termination_by d.size - id
  decreasing_by
    have := Document.child_lt _h; omega

/-- The document that holds a copy of one node and of all below it; of the root, everything. -/
def Document.subtree (d : Document) (id : Nat) : Document :=
  if id = 0 then ((d.children 0).foldl (fun b c => b.copy d c) Builder.empty).document
  else (Builder.empty.copy d id).document

structure NodeRef where
  document : Document
  id : Nat
  deriving DecidableEq

namespace NodeRef

def ofRoot (d : Document) : NodeRef := ⟨d, 0⟩

variable (r : NodeRef)

def name? : Option String := r.document.name? r.id

def textContent : String := r.document.stringValue r.id

def toMarkup : String := r.document.toMarkup r.id

/-- A copy of the node in a document that holds nothing else; the root needs none. -/
def copied? : Option NodeRef :=
  if r.id = 0 then none
  else
    let copy := r.document.subtree r.id
    some ⟨copy, (copy.children 0).headD 0⟩

def standalone : NodeRef := r.copied?.getD r

end NodeRef

end Harvest.Markup
