import Harvest.Html.Head

/-!
The rules for the body of a page.
-/

namespace Harvest.Html

open Harvest.Markup

/-- The names of attributes that have another local name in foreign content. -/
def foreignAttributeNames : List (String × String) :=
  [("xlink:actuate", "actuate"), ("xlink:arcrole", "arcrole"), ("xlink:href", "href"),
    ("xlink:role", "role"), ("xlink:show", "show"), ("xlink:title", "title"),
    ("xlink:type", "type"), ("xml:base", "base"), ("xml:lang", "lang"),
    ("xml:space", "space"), ("xmlns:xlink", "xlink")]

def foreignAttributes (attributes : List Attribute) : List Attribute :=
  attributes.map fun (key, value) => ((foreignAttributeNames.lookup key).getD key, value)

namespace Construction

variable (s : Construction)

def openForeign (space : Space) (tag : Tag) : Construction :=
  (s.insertElement space tag.name (foreignAttributes tag.attributes) (!tag.selfClosing)).1

/-- Closes an open link before another one is opened. -/
def closeLink : Construction :=
  let link := s.recentFormatting.findSome? fun
    | .element id _ => if isHtml "a" (s.nameOf id) then some id else none
    | .marker => none
  match link with
  | none => s
  | some id => ((s.adopt "a").forgetFormatting id).removeFromStack id

/-- Closes a list item, up to the innermost of `names` that no element stands in the way of. -/
def closeItem (names : List String) : Construction :=
  let isStop (id : Nat) : Bool :=
    inSet (specialNames.filter fun n => !(["address", "div", "p"].contains n)) (s.nameOf id)
  let outer := s.opened.dropWhile fun id => !inSet names (s.nameOf id) && !isStop id
  match outer with
  | [] => s
  | id :: _ =>
    match s.nameOf id with
    | some (.html, name) =>
      if names.contains name then (s.generateImpliedEndExcept name).popUntilNamed name else s
    | _ => s

/-- Inserts an element without content, after which no set of frames can take the place of the
body. -/
def insertVoidInBody (tag : Tag) (keepsFrames : Bool) : Construction :=
  let s := s.reconstructFormatting.insertVoid tag
  { s with framesetOk := s.framesetOk && keepsFrames }

def noFrames : Construction := { s with framesetOk := false }

/-- Closes an element that is in scope, and what its end implies. -/
def closeInScope (name : String) : Construction :=
  if s.inScopeNamed defaultScope name then
    (s.generateImpliedEnd impliedEndNames).popUntilNamed name
  else s

def closeForm : Construction :=
  if s.isOpen "template" then s.closeInScope "form"
  else
    match s.form with
    | none => s
    | some id =>
      let s := { s with form := none }
      if s.inScope defaultScope (· == id) then
        (s.generateImpliedEnd impliedEndNames).removeFromStack id
      else s

end Construction

open Construction

def isHidden (tag : Tag) : Bool :=
  match tag.attributes.lookup "type" with
  | some value => Text.lowerAscii value == "hidden"
  | none => false

def blockNames : List String :=
  ["address", "article", "aside", "blockquote", "center", "details", "dialog", "dir", "div", "dl",
    "fieldset", "figcaption", "figure", "footer", "header", "hgroup", "main", "menu", "nav", "ol",
    "section", "summary", "ul"]

def formattingNames : List String :=
  ["b", "big", "code", "em", "font", "i", "s", "small", "strike", "strong", "tt", "u"]

def tablePartNames : List String :=
  ["caption", "col", "colgroup", "frame", "head", "tbody", "td", "tfoot", "th", "thead", "tr"]

def startTagInBody (tag : Tag) : Build Outcome :=
  let name := tag.name
  if name = "html" then finish (·.mergeHtml tag)
  else if ["base", "basefont", "bgsound", "link", "meta", "noframes", "script", "style", "template",
      "title"].contains name then
    inHead (.startTag tag)
  else if name = "body" then
    finish fun s =>
      match s.body? with
      | some id =>
        if s.isOpen "template" then s
        else { s with framesetOk := false, tree := s.tree.addAttributes id tag.attributes }
      | none => s
  else if name = "frameset" then
    finish fun s =>
      match s.framesetOk, s.body? with
      | true, some id =>
        let s := { s with tree := s.tree.detach id, opened := [s.htmlElement] }
        { s.openTag tag with mode := .inFrameset }
      | _, _ => s
  else if blockNames.contains name || name = "p" then
    finish (·.closeParagraphInScope.openTag tag)
  else if headingNames.contains name then
    finish fun s =>
      let s := s.closeParagraphInScope
      (if inSet headingNames s.currentName then s.pop else s).openTag tag
  else if name = "pre" || name = "listing" then
    finish fun s =>
      { s.closeParagraphInScope.openTag tag with dropNewline := true, framesetOk := false }
  else if name = "form" then
    finish fun s =>
      if s.form.isSome && !s.isOpen "template" then s
      else
        let (s, id) := s.closeParagraphInScope.insertElement .html name tag.attributes true
        if s.isOpen "template" then s else { s with form := some id }
  else if name = "li" then
    finish fun s => ((s.noFrames.closeItem ["li"]).closeParagraphInScope).openTag tag
  else if name = "dd" || name = "dt" then
    finish fun s => ((s.noFrames.closeItem ["dd", "dt"]).closeParagraphInScope).openTag tag
  else if name = "plaintext" then
    finish fun s => { s.closeParagraphInScope.openTag tag with content := .plain }
  else if name = "button" then
    finish fun s =>
      let s := s.closeInScope "button"
      (s.reconstructFormatting.openTag tag).noFrames
  else if name = "a" then
    finish fun s => s.closeLink.reconstructFormatting.openFormatting tag
  else if formattingNames.contains name then
    finish (·.reconstructFormatting.openFormatting tag)
  else if name = "nobr" then
    finish fun s =>
      let s := s.reconstructFormatting
      let s := if s.inScopeNamed defaultScope "nobr" then (s.adopt "nobr").reconstructFormatting
        else s
      s.openFormatting tag
  else if ["applet", "marquee", "object"].contains name then
    finish fun s => (s.reconstructFormatting.openTag tag).addMarker.noFrames
  else if name = "table" then
    finish fun s =>
      let s := if s.oldRules then s else s.closeParagraphInScope
      { s.openTag tag with framesetOk := false, mode := .inTable }
  else if ["area", "br", "embed", "img", "keygen", "wbr"].contains name then
    finish (·.insertVoidInBody tag false)
  else if name = "input" then finish (·.insertVoidInBody tag (isHidden tag))
  else if ["param", "source", "track"].contains name then finish (·.insertVoid tag)
  else if name = "hr" then finish fun s => (s.closeParagraphInScope.insertVoid tag).noFrames
  else if name = "image" then finish (·.insertVoidInBody { tag with name := "img" } false)
  else if name = "textarea" then
    finish fun s =>
      { s.openText tag (.replaceable name) with dropNewline := true, framesetOk := false }
  else if name = "xmp" then
    finish fun s =>
      (s.closeParagraphInScope.reconstructFormatting.openText tag (.raw name)).noFrames
  else if name = "iframe" then finish fun s => (s.openText tag (.raw name)).noFrames
  else if name = "noembed" || name = "noscript" then finish (·.openText tag (.raw name))
  else if name = "select" then
    finish fun s =>
      let inTable := [Insertion.inTable, .inCaption, .inTableBody, .inRow, .inCell].contains s.mode
      let s := s.reconstructFormatting.openTag tag
      { s with framesetOk := false, mode := if inTable then .inSelectInTable else .inSelect }
  else if name = "optgroup" || name = "option" then
    finish fun s => (if s.currentIs "option" then s.pop else s).reconstructFormatting.openTag tag
  else if name = "rb" || name = "rtc" then
    finish fun s =>
      (if s.inScopeNamed defaultScope "ruby" then s.generateImpliedEnd impliedEndNames
        else s).openTag tag
  else if name = "rp" || name = "rt" then
    finish fun s =>
      (if s.inScopeNamed defaultScope "ruby" then s.generateImpliedEndExcept "rtc"
        else s).openTag tag
  else if name = "math" then finish (·.openForeign .mathml tag)
  else if name = "svg" then finish (·.openForeign .svg tag)
  else if tablePartNames.contains name then ignore
  else finish (·.reconstructFormatting.openTag tag)

def endTagInBody (tag : Tag) : Build Outcome :=
  let name := tag.name
  if name = "template" then inHead (.endTag tag)
  else if name = "body" then
    finish fun s => if s.inScopeNamed defaultScope "body" then { s with mode := .afterBody } else s
  else if name = "html" then do
    if (← get).inScopeNamed defaultScope "body" then retry .afterBody (.endTag tag) else ignore
  else if blockNames.contains name || ["button", "listing", "pre"].contains name then
    finish (·.closeInScope name)
  else if name = "form" then finish (·.closeForm)
  else if name = "p" then
    finish fun s =>
      (if s.inScopeNamed buttonScope "p" then s else s.openImplied "p").closeParagraph
  else if name = "li" || name = "dd" || name = "dt" then
    finish fun s =>
      let scope := if name = "li" then listItemScope else defaultScope
      if s.inScopeNamed scope name then (s.generateImpliedEndExcept name).popUntilNamed name else s
  else if headingNames.contains name then
    finish fun s =>
      if s.inScope defaultScope fun id => inSet headingNames (s.nameOf id) then
        (s.generateImpliedEnd impliedEndNames).popUntil (inSet headingNames)
      else s
  else if formattingNames.contains name || name = "a" || name = "nobr" then
    finish (·.adopt name)
  else if ["applet", "marquee", "object"].contains name then
    finish fun s =>
      if s.inScopeNamed defaultScope name then (s.closeInScope name).clearToMarker else s
  else if name = "br" then finish (·.insertVoidInBody ⟨"br", [], tag.selfClosing⟩ false)
  else finish (·.closeOther name)

/-- The end of the text inside a template: closes it, and the end comes again. -/
def endInTemplate : Build Outcome := do
  if (← get).isOpen "template" then
    modify fun s => (s.popUntilNamed "template").leaveTemplate
    return .again .eof
  else ignore

def inBody (item : Item) : Build Outcome :=
  match item with
  | .null => ignore
  | .blanks content => finish (·.reconstructFormatting.insertText content)
  | .letters content => finish fun s => (s.reconstructFormatting.noFrames).insertText content
  | .comment content => finish (·.comment content)
  | .startTag tag => startTagInBody tag
  | .endTag tag => endTagInBody tag
  | .eof => do
    if (← get).templates.isEmpty then ignore else endInTemplate

/-- The rules inside an element whose content is text. -/
def inText (item : Item) : Build Outcome :=
  match item with
  | .blanks content => finish (·.insertText content)
  | .letters content => finish (·.insertText content)
  | .null => finish (·.insertText [replacement])
  | .endTag _ => finish fun s => { s.pop with mode := s.resume, content := .ordinary }
  | .eof => do
    let s ← get
    set { s.pop with content := .ordinary }
    retry s.resume .eof
  | _ => ignore

end Harvest.Html
