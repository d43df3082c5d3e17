import Harvest.Html.Formatting

/-!
The rules for the head of a page, for templates, and for choosing the mode that fits the open
elements.
-/

namespace Harvest.Html

namespace Construction

variable (s : Construction)

/-- The mode that fits the open elements, from one of them outward. -/
def modeFor : List Nat → Insertion
  | [] => .inBody
  | id :: outer =>
    let last := outer.isEmpty
    match s.nameOf id with
    | some (.html, name) =>
      if name = "select" then
        match outer.find? fun id => inSet ["template", "table"] (s.nameOf id) with
        | some id => if isHtml "table" (s.nameOf id) then .inSelectInTable else .inSelect
        | none => .inSelect
      else if (name = "td" ∨ name = "th") ∧ !last then .inCell
      else if name = "tr" then .inRow
      else if ["tbody", "thead", "tfoot"].contains name then .inTableBody
      else if name = "caption" then .inCaption
      else if name = "colgroup" then .inColumnGroup
      else if name = "table" then .inTable
      else if name = "template" then s.templates.headD .inBody
      else if name = "head" ∧ !last then .inHead
      else if name = "body" then .inBody
      else if name = "frameset" then .inFrameset
      else if name = "html" then (if s.head.isNone then .beforeHead else .afterHead)
      else modeFor outer
    | _ => modeFor outer

def resetMode : Construction := { s with mode := s.modeFor s.opened }

/-- Gives the outermost element the attributes of another tag for it. -/
def mergeHtml (tag : Tag) : Construction :=
  if s.isOpen "template" then s
  else { s with tree := s.tree.addAttributes s.htmlElement tag.attributes }

def openTemplate (tag : Tag) : Construction :=
  let s := (s.openTag tag).addMarker
  { s with framesetOk := false, mode := .inTemplate, templates := .inTemplate :: s.templates }

/-- Closes what is left of a template that has been closed. -/
def leaveTemplate : Construction :=
  let s := s.clearToMarker
  resetMode { s with templates := s.templates.drop 1 }

def closeTemplate : Construction :=
  if s.isOpen "template" then
    ((s.generateImpliedEnd thoroughEndNames).popUntilNamed "template").leaveTemplate
  else s

end Construction

open Construction

def inHead (item : Item) : Build Outcome :=
  match item with
  | .blanks content => finish (·.insertText content)
  | .comment content => finish (·.comment content)
  | .startTag tag =>
    if tag.name = "html" then finish (·.mergeHtml tag)
    else if ["base", "basefont", "bgsound", "link", "meta"].contains tag.name then
      finish (·.insertVoid tag)
    else if tag.name = "title" then finish (·.openText tag (.replaceable tag.name))
    else if ["noframes", "style", "noscript"].contains tag.name then
      finish (·.openText tag (.raw tag.name))
    else if tag.name = "script" then finish (·.openText tag (.script tag.name))
    else if tag.name = "template" then finish (·.openTemplate tag)
    else if tag.name = "head" then ignore
    else leave
  | .endTag tag =>
    if tag.name = "head" then finish fun s => { s.pop with mode := .afterHead }
    else if ["body", "html", "br"].contains tag.name then leave
    else if tag.name = "template" then finish (·.closeTemplate)
    else ignore
  | _ => leave
where
  leave : Build Outcome := do
    modify (·.pop)
    retry .afterHead item

end Harvest.Html
