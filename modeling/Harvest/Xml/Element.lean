import Harvest.SortedMap
import Harvest.Text.Blank
import Harvest.Xml.Document

/-!
Elements with attributes and child elements, as configuration files are made of.

Tags and attribute names are in lower case, of an attribute written twice the last value counts, and
everything but elements is left out. A text has to be well formed; its first top-level element is
taken.
-/

namespace Harvest.Xml

open Harvest.Text

structure Element where
  tag : String
  attributes : SortedMap String
  children : List Element

instance : Inhabited Element := ⟨⟨"", .empty, []⟩⟩

namespace Element

def attribute? (e : Element) (name : String) : Option String := e.attributes.get? name

def ofTag (tag : Tag) : Except Problem Element := do
  let attributes ← resolveAttributes true (tag.attributes true)
  return {
    tag := lowerAscii (String.ofList tag.name)
    attributes := .ofList (attributes.map fun (key, value) => (lowerAscii key, value))
    children := [] }

end Element

inductive ElementError
  | malformed (problem : Problem)
  | unclosed (tag : String)
  | missingRoot
  deriving DecidableEq, Repr

/-- The open elements, innermost first, and the first top-level element that is complete. -/
structure Nesting where
  opened : List Element
  root : Option Element

namespace Nesting

/-- Adds a complete element to the innermost open one, or as the root. -/
def attach (n : Nesting) (e : Element) : Nesting :=
  match n.opened with
  | parent :: outer =>
    { n with opened := { parent with children := parent.children ++ [e] } :: outer }
  | [] => { n with root := n.root.or (some e) }

/-- Takes one event; only tags count. -/
def takeEvent (n : Nesting) : Event → Except Problem Nesting
  | .startTag tag => do
    let e ← Element.ofTag tag
    return { n with opened := e :: n.opened }
  | .emptyTag tag => do
    let e ← Element.ofTag tag
    return n.attach e
  | .endTag _ =>
    match n.opened with
    | e :: outer => .ok (attach { n with opened := outer } e)
    | [] => .ok n
  | _ => .ok n

end Nesting

def Element.parse (source : String) : Except ElementError Element := do
  let (events, failure) := events true source
  let n ← (events.foldlM Nesting.takeEvent ⟨[], none⟩).mapError .malformed
  match failure with
  | some failure => throw (.malformed (.broken failure))
  | none =>
    match n.opened, n.root with
    | e :: _, _ => throw (.unclosed e.tag)
    | [], some root => return root
    | [], none => throw .missingRoot

end Harvest.Xml
