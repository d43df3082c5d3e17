import Harvest.Html.Body

/-!
The rules for tables and for selections.

What a table cannot hold is put in front of it. Text inside a table is held back until it is known
whether all of it is blank.
-/

namespace Harvest.Html

open Construction

def tableBodyContext : Elements := inSet ["tbody", "tfoot", "thead", "template", "html"]

def tableRowContext : Elements := inSet ["tr", "template", "html"]

/-- Takes an item by the rules for the body, putting what it brings in front of the table. -/
def fosterInBody (item : Item) : Build Outcome := do
  modify fun s => { s with fostering := true }
  let outcome ← inBody item
  modify fun s => { s with fostering := false }
  return outcome

def textInTable (item : Item) : Build Outcome := do
  let s ← get
  if inSet ["table", "tbody", "tfoot", "thead", "tr"] s.currentName then
    set { s with resume := s.mode }
    retry .inTableText item
  else fosterInBody item

def inTable (item : Item) : Build Outcome :=
  match item with
  | .null => textInTable item
  | .blanks _ => textInTable item
  | .letters _ => textInTable item
  | .comment content => finish (·.comment content)
  | .eof => inBody item
  | .startTag tag =>
    let name := tag.name
    let clear (s : Construction) : Construction := s.popUntilCurrent tableScope
    if name = "caption" then
      finish fun s => { (clear s).addMarker.openTag tag with mode := .inCaption }
    else if name = "colgroup" then
      finish fun s => { (clear s).openTag tag with mode := .inColumnGroup }
    else if name = "col" then do
      modify fun s => (clear s).openImplied "colgroup"
      retry .inColumnGroup item
    else if ["tbody", "tfoot", "thead"].contains name then
      finish fun s => { (clear s).openTag tag with mode := .inTableBody }
    else if ["td", "th", "tr"].contains name then do
      modify fun s => (clear s).openImplied "tbody"
      retry .inTableBody item
    else if name = "table" then do
      if (← get).inScopeNamed tableScope "table" then
        modify fun s => (s.popUntilNamed "table").resetMode
        return .again item
      else ignore
    else if ["style", "script", "template"].contains name then inHead item
    else if name = "input" && isHidden tag then finish (·.insertVoid tag)
    else if name = "form" then
      finish fun s =>
        if s.isOpen "template" || s.form.isSome then s
        else
          let (s, id) := s.insertElement .html name tag.attributes false
          { s with form := some id }
    else fosterInBody item
  | .endTag tag =>
    let name := tag.name
    if name = "table" then
      finish fun s =>
        if s.inScopeNamed tableScope "table" then (s.popUntilNamed "table").resetMode else s
    else if ["body", "caption", "col", "colgroup", "html", "tbody", "td", "tfoot", "th", "thead",
        "tr"].contains name then ignore
    else if name = "template" then inHead item
    else fosterInBody item

/-- The rules for text held back in a table. -/
def inTableText (item : Item) : Build Outcome :=
  match item with
  | .null => ignore
  | .blanks content => finish fun s => { s with pending := s.pending ++ content }
  | .letters content => finish fun s => { s with pending := s.pending ++ content }
  | _ => do
    let s ← get
    let held := s.pending
    set { s with pending := [] }
    if held.all isSpace then
      unless held.isEmpty do modify (·.insertText held)
    else
      let _ ← fosterInBody (.letters held)
    retry s.resume item

def inCaption (item : Item) : Build Outcome :=
  match item with
  | .startTag tag =>
    if ["caption", "col", "colgroup", "tbody", "td", "tfoot", "th", "thead", "tr"].contains tag.name
    then leave (retry .inTable item)
    else inBody item
  | .endTag tag =>
    if tag.name = "table" then leave (retry .inTable item)
    else if tag.name = "caption" then leave (finish fun s => { s with mode := .inTable })
    else if ["body", "col", "colgroup", "html", "tbody", "td", "tfoot", "th", "thead",
        "tr"].contains tag.name then ignore
    else inBody item
  | item => inBody item
where
  leave (andThen : Build Outcome) : Build Outcome := do
    if (← get).inScopeNamed tableScope "caption" then
      modify fun s =>
        ((s.generateImpliedEnd impliedEndNames).popUntilNamed "caption").clearToMarker
      andThen
    else ignore

def inColumnGroup (item : Item) : Build Outcome :=
  match item with
  | .blanks content => finish (·.insertText content)
  | .comment content => finish (·.comment content)
  | .eof => inBody item
  | .startTag tag =>
    if tag.name = "html" then inBody item
    else if tag.name = "col" then finish (·.insertVoid tag)
    else if tag.name = "template" then inHead item
    else leave
  | .endTag tag =>
    if tag.name = "colgroup" then
      finish fun s => if s.currentIs "colgroup" then { s.pop with mode := .inTable } else s
    else if tag.name = "col" then ignore
    else if tag.name = "template" then inHead item
    else leave
  | _ => leave
where
  leave : Build Outcome := do
    if (← get).currentIs "colgroup" then
      modify (·.pop)
      retry .inTable item
    else ignore

def inTableBody (item : Item) : Build Outcome :=
  match item with
  | .startTag tag =>
    let name := tag.name
    if name = "tr" then
      finish fun s => { (s.popUntilCurrent tableBodyContext).openTag tag with mode := .inRow }
    else if name = "th" || name = "td" then do
      modify fun s => (s.popUntilCurrent tableBodyContext).openImplied "tr"
      retry .inRow item
    else if ["caption", "col", "colgroup", "tbody", "tfoot", "thead"].contains name then leave
    else inTable item
  | .endTag tag =>
    let name := tag.name
    if ["tbody", "tfoot", "thead"].contains name then
      finish fun s =>
        if s.inScopeNamed tableScope name then
          { (s.popUntilCurrent tableBodyContext).pop with mode := .inTable }
        else s
    else if name = "table" then leave
    else if ["body", "caption", "col", "colgroup", "html", "td", "th", "tr"].contains name then
      ignore
    else inTable item
  | item => inTable item
where
  leave : Build Outcome := do
    let s ← get
    if s.inScope tableScope fun id => inSet ["table", "tbody", "tfoot"] (s.nameOf id) then
      modify fun s => (s.popUntilCurrent tableBodyContext).pop
      retry .inTable item
    else ignore

def inRow (item : Item) : Build Outcome :=
  match item with
  | .startTag tag =>
    let name := tag.name
    if name = "th" || name = "td" then
      finish fun s =>
        { ((s.popUntilCurrent tableRowContext).openTag tag).addMarker with mode := .inCell }
    else if ["caption", "col", "colgroup", "tbody", "tfoot", "thead", "tr"].contains name then leave
    else inTable item
  | .endTag tag =>
    let name := tag.name
    if name = "tr" then
      finish fun s =>
        if s.inScopeNamed tableScope "tr" then
          { (s.popUntilCurrent tableRowContext).pop with mode := .inTableBody }
        else s
    else if name = "table" then leave
    else if ["tbody", "tfoot", "thead"].contains name then do
      if (← get).inScopeNamed tableScope name then leave else ignore
    else if ["body", "caption", "col", "colgroup", "html", "td", "th"].contains name then ignore
    else inTable item
  | item => inTable item
where
  leave : Build Outcome := do
    if (← get).inScopeNamed tableScope "tr" then
      modify fun s => (s.popUntilCurrent tableRowContext).pop
      retry .inTableBody item
    else ignore

def inCell (item : Item) : Build Outcome :=
  match item with
  | .startTag tag => do
    if ["caption", "col", "colgroup", "tbody", "td", "tfoot", "th", "thead", "tr"].contains tag.name
    then
      let s ← get
      if s.inScope tableScope fun id => inSet ["td", "th"] (s.nameOf id) then leave else ignore
    else inBody item
  | .endTag tag => do
    let name := tag.name
    if name = "td" || name = "th" then
      finish fun s =>
        if s.inScopeNamed tableScope name then
          { ((s.generateImpliedEnd impliedEndNames).popUntilNamed name).clearToMarker with
            mode := .inRow }
        else s
    else if ["body", "caption", "col", "colgroup", "html"].contains name then ignore
    else if ["table", "tbody", "tfoot", "thead", "tr"].contains name then
      if (← get).inScopeNamed tableScope name then leave else ignore
    else inBody item
  | item => inBody item
where
  leave : Build Outcome := do
    modify fun s =>
      ((s.generateImpliedEnd impliedEndNames).popUntil (inSet ["td", "th"])).clearToMarker
    retry .inRow item

def inSelect (item : Item) : Build Outcome :=
  match item with
  | .null => ignore
  | .blanks content => finish (·.insertText content)
  | .letters content => finish (·.insertText content)
  | .comment content => finish (·.comment content)
  | .eof => inBody item
  | .startTag tag => do
    let name := tag.name
    if name = "html" then inBody item
    else if name = "option" then
      finish fun s => (if s.currentIs "option" then s.pop else s).openTag tag
    else if name = "optgroup" then
      finish fun s =>
        let s := if s.currentIs "option" then s.pop else s
        (if s.currentIs "optgroup" then s.pop else s).openTag tag
    else if name = "select" then
      finish fun s =>
        if s.inScopeNamed selectScope "select" then (s.popUntilNamed "select").resetMode else s
    else if ["input", "keygen", "textarea"].contains name then
      if (← get).inScopeNamed selectScope "select" then
        modify fun s => (s.popUntilNamed "select").resetMode
        return .again item
      else ignore
    else if name = "script" || name = "template" then inHead item
    else ignore
  | .endTag tag =>
    let name := tag.name
    if name = "optgroup" then
      finish fun s =>
        let s := match s.opened with
          | _ :: id :: _ =>
            if s.currentIs "option" && isHtml "optgroup" (s.nameOf id) then s.pop else s
          | _ => s
        if s.currentIs "optgroup" then s.pop else s
    else if name = "option" then finish fun s => if s.currentIs "option" then s.pop else s
    else if name = "select" then
      finish fun s =>
        if s.inScopeNamed selectScope "select" then (s.popUntilNamed "select").resetMode else s
    else if name = "template" then inHead item
    else ignore

def inSelectInTable (item : Item) : Build Outcome :=
  let names := ["caption", "table", "tbody", "tfoot", "thead", "tr", "td", "th"]
  match item with
  | .startTag tag => do
    if names.contains tag.name then leave else inSelect item
  | .endTag tag => do
    if names.contains tag.name then
      if (← get).inScopeNamed tableScope tag.name then leave else ignore
    else inSelect item
  | item => inSelect item
where
  leave : Build Outcome := do
    modify fun s => (s.popUntilNamed "select").resetMode
    return .again item

def inTemplate (item : Item) : Build Outcome :=
  match item with
  | .blanks _ => inBody item
  | .letters _ => inBody item
  | .null => ignore
  | .comment _ => inBody item
  | .eof => endInTemplate
  | .startTag tag =>
    let name := tag.name
    if ["base", "basefont", "bgsound", "link", "meta", "noframes", "script", "style", "template",
        "title"].contains name then inHead item
    else if ["caption", "colgroup", "tbody", "tfoot", "thead"].contains name then become .inTable
    else if name = "col" then become .inColumnGroup
    else if name = "tr" then become .inTableBody
    else if name = "td" || name = "th" then become .inRow
    else become .inBody
  | .endTag tag => if tag.name = "template" then inHead item else ignore
where
  become (mode : Insertion) : Build Outcome := do
    modify fun s => { s with templates := mode :: s.templates.drop 1 }
    retry mode item

end Harvest.Html
