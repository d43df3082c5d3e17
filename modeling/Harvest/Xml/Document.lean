import Harvest.Markup.Builder
import Harvest.Markup.Error
import Harvest.Xml.Error

/-!
Documents from XML text.

Strict reading refuses everything that is not well formed. Lenient reading passes over end tags that
match nothing, closes what is left open, leaves out malformed attributes and keeps text with unknown
references as it is written.
-/

namespace Harvest.Xml

open Harvest.Markup

/-- A text with its references replaced; lenient reading keeps it as written where that fails. -/
def resolveText (strict : Bool) (raw : List Char) : Except Problem String :=
  match unescape raw with
  | .ok cs => .ok (String.ofList cs)
  | .error fault => if strict then .error (.reference fault) else .ok (String.ofList raw)

/-- The attributes of a list of readings; lenient reading leaves out the malformed ones. -/
def resolveAttributes (strict : Bool) :
    List (Except AttributeFault RawAttribute) → Except Problem (List Attribute)
  | [] => .ok []
  | .error fault :: rest =>
    if strict then .error (.attribute fault) else resolveAttributes strict rest
  | .ok raw :: rest => do
    let value ← resolveText strict raw.value
    let others ← resolveAttributes strict rest
    return (String.ofList raw.key, value) :: others

def openTag (strict : Bool) (b : Builder) (tag : Tag) : Except Problem Builder := do
  let attributes ← resolveAttributes strict (tag.attributes strict)
  return b.openElement (String.ofList tag.name) attributes

def takeEvent (strict : Bool) (b : Builder) : Event → Except Problem Builder
  | .startTag tag => openTag strict b tag
  | .emptyTag tag => do
    let b ← openTag strict b tag
    return b.closeCurrent
  | .endTag name =>
    match b.closeElement? (String.ofList name) with
    | some b => .ok b
    | none => if strict then .error (.strayEnd (String.ofList name)) else .ok b
  | .text raw => do
    let content ← resolveText strict raw
    return b.text content
  | .cdata content => .ok (b.text (String.ofList content))
  | .comment content => .ok (b.comment (String.ofList content))
  | .aside => .ok b

def takeEvents (strict : Bool) (b : Builder) (events : List Event) : Except Problem Builder :=
  events.foldlM (takeEvent strict) b

def parse (strict : Bool) (source : String) : Except Markup.Error Document := do
  let (events, failure) := events strict source
  let b ← (takeEvents strict Builder.empty events).mapError .malformed
  match failure with
  | some failure => throw (.malformed (.broken failure))
  | none =>
    match strict, b.openName? with
    | true, some name => throw (.unclosed name)
    | _, _ => return b.document

end Harvest.Xml
