import Harvest.Html.Tree

/-!
The state of building a tree from HTML tokens, and the steps that the rules are made of.

The open elements are kept innermost first. A scope is a set of elements at which looking outward
for an open element stops.
-/

namespace Harvest.Html

open Harvest.Markup

/-- What the tokens that come next are part of. -/
inductive Insertion
  | initial | beforeHtml | beforeHead | inHead | afterHead | inBody | text
  | inTable | inTableText | inCaption | inColumnGroup | inTableBody | inRow | inCell
  | inSelect | inSelectInTable | inTemplate | afterBody | inFrameset | afterFrameset
  | afterAfterBody | afterAfterFrameset
  deriving DecidableEq, Repr

/-- An entry in the list of formatting elements to be opened again. -/
inductive Entry
  | marker
  | element (id : Nat) (tag : Tag)
  deriving DecidableEq, Repr

structure Construction where
  tree : Tree
  mode : Insertion
  /-- The mode to return to after text. -/
  resume : Insertion
  /-- How the tokenizer reads what comes next. -/
  content : Content
  /-- The open elements, innermost first. -/
  opened : List Nat
  /-- The formatting elements, latest first. -/
  formatting : List Entry
  head : Option Nat
  form : Option Nat
  /-- Whether what a table cannot hold is put in front of it. -/
  fostering : Bool
  framesetOk : Bool
  /-- Whether a line feed that comes next is left out. -/
  dropNewline : Bool
  /-- Text in a table that has not found its place yet. -/
  pending : List Char
  oldRules : Bool
  /-- The modes of the open templates, innermost first. -/
  templates : List Insertion

def Construction.start : Construction where
  tree := .empty
  mode := .initial
  resume := .initial
  content := .ordinary
  opened := []
  formatting := []
  head := none
  form := none
  fostering := false
  framesetOk := true
  dropNewline := false
  pending := []
  oldRules := false
  templates := []

/-- A token as the rules see it: text comes in runs of blanks and of other characters. -/
inductive Item
  | startTag (tag : Tag)
  | endTag (tag : Tag)
  | comment (content : List Char)
  | blanks (content : List Char)
  | letters (content : List Char)
  | null
  | eof

/-- Whether the rules are done with a token, or the token is to be taken again in the mode that is
set by then. -/
inductive Outcome
  | done
  | again (item : Item)

abbrev Build := StateM Construction

/-! ### Sets of elements -/

def scopeNames : List String :=
  ["applet", "caption", "html", "table", "td", "th", "marquee", "object", "template"]

def impliedEndNames : List String :=
  ["dd", "dt", "li", "option", "optgroup", "p", "rb", "rp", "rt", "rtc"]

def thoroughEndNames : List String :=
  impliedEndNames ++ ["caption", "colgroup", "tbody", "td", "tfoot", "th", "thead", "tr"]

def headingNames : List String := ["h1", "h2", "h3", "h4", "h5", "h6"]

def specialNames : List String :=
  ["address", "applet", "area", "article", "aside", "base", "basefont", "bgsound", "blockquote",
    "body", "br", "button", "caption", "center", "col", "colgroup", "dd", "details", "dir", "div",
    "dl", "dt", "embed", "fieldset", "figcaption", "figure", "footer", "form", "frame", "frameset",
    "h1", "h2", "h3", "h4", "h5", "h6", "head", "header", "hgroup", "hr", "html", "iframe", "img",
    "input", "isindex", "li", "link", "listing", "main", "marquee", "menu", "meta", "nav",
    "noembed", "noframes", "noscript", "object", "ol", "p", "param", "plaintext", "pre", "script",
    "section", "select", "source", "style", "summary", "table", "tbody", "td", "template",
    "textarea", "tfoot", "th", "thead", "title", "tr", "track", "ul", "wbr", "xmp"]

def inSet (names : List String) : Option (Space × String) → Bool
  | some (.html, name) => names.contains name
  | _ => false

def isHtml (name : String) : Option (Space × String) → Bool := inSet [name]

def mathTextPoint : Option (Space × String) → Bool
  | some (.mathml, name) => ["mi", "mo", "mn", "ms", "mtext"].contains name
  | _ => false

def svgHtmlPoint : Option (Space × String) → Bool
  | some (.svg, name) => ["foreignobject", "desc", "title"].contains name
  | _ => false

/-- A set of elements, given by name and name space. -/
abbrev Elements := Option (Space × String) → Bool

def defaultScope : Elements := fun e => inSet scopeNames e || mathTextPoint e || svgHtmlPoint e

def listItemScope : Elements := fun e => defaultScope e || inSet ["ol", "ul"] e

def buttonScope : Elements := fun e => defaultScope e || inSet ["button"] e

def tableScope : Elements := inSet ["html", "table", "template"]

def selectScope : Elements := fun e => !inSet ["optgroup", "option"] e

/-! ### The open elements -/

namespace Construction

variable (s : Construction)

def nameOf (id : Nat) : Option (Space × String) := s.tree.elementName? id

def current : Nat := s.opened.headD 0

def currentName : Option (Space × String) := s.nameOf s.current

def currentIs (name : String) : Bool := isHtml name s.currentName

/-- Whether an open element that satisfies `p` comes before one of the scope, looking outward. -/
def inScope (scope : Elements) (p : Nat → Bool) : Bool :=
  go s.opened
where
  go : List Nat → Bool
    | [] => false
    | id :: outer => if p id then true else if scope (s.nameOf id) then false else go outer

def inScopeNamed (scope : Elements) (name : String) : Bool :=
  s.inScope scope fun id => isHtml name (s.nameOf id)

def isOpen (name : String) : Bool := s.opened.any fun id => isHtml name (s.nameOf id)

/-- Closes elements until one of the set has been closed. -/
def popUntil (p : Elements) : Construction :=
  { s with opened := (s.opened.dropWhile fun id => !p (s.nameOf id)).drop 1 }

def popUntilNamed (name : String) : Construction := s.popUntil (isHtml name)

/-- Closes elements until the innermost open one is in the set. -/
def popUntilCurrent (p : Elements) : Construction :=
  { s with opened := s.opened.dropWhile fun id => !p (s.nameOf id) }

def pop : Construction := { s with opened := s.opened.drop 1 }

def generateImpliedEnd (names : List String) : Construction :=
  { s with opened := s.opened.dropWhile fun id => inSet names (s.nameOf id) }

def generateImpliedEndExcept (name : String) : Construction :=
  s.generateImpliedEnd (impliedEndNames.filter (· != name))

def removeFromStack (id : Nat) : Construction := { s with opened := s.opened.filter (· != id) }

def closeParagraph : Construction := (s.generateImpliedEndExcept "p").popUntilNamed "p"

def closeParagraphInScope : Construction :=
  if s.inScopeNamed buttonScope "p" then s.closeParagraph else s

/-- The second of the open elements from outside, if it is the body. -/
def body? : Option Nat :=
  match s.opened.reverse with
  | _ :: b :: _ => if isHtml "body" (s.nameOf b) then some b else none
  | _ => none

def htmlElement : Nat := s.opened.getLastD 0

/-! ### Inserting -/

/-- Where a node is put: behind the children of an element, or in front of a table that has a
parent and else behind the children of the element that the table was opened in. -/
inductive Place
  | lastChild (parent : Nat)
  | beforeTable (table previous : Nat)

/-- The children of a template are those of its fragment. -/
def receiver (id : Nat) : Nat :=
  if isHtml "template" (s.nameOf id) then (s.tree.node id).children.headD id else id

def placeFor (target : Nat) : Place :=
  if s.fostering && inSet ["table", "tbody", "tfoot", "thead", "tr"] (s.nameOf target) then
    go s.opened
  else .lastChild (s.receiver target)
where
  go : List Nat → Place
    | [] => .lastChild s.htmlElement
    | id :: outer =>
      if isHtml "template" (s.nameOf id) then .lastChild (s.receiver id)
      else if isHtml "table" (s.nameOf id) then .beforeTable id (outer.headD 0)
      else go outer

def insertNode (target id : Nat) : Construction :=
  match s.placeFor target with
  | .lastChild parent => { s with tree := s.tree.append parent id }
  | .beforeTable table previous =>
    if (s.tree.node table).parent.isSome then { s with tree := s.tree.insertBefore table id }
    else { s with tree := s.tree.append previous id }

def insertText (content : List Char) : Construction :=
  match s.placeFor s.current with
  | .lastChild parent => { s with tree := s.tree.appendText parent content }
  | .beforeTable table previous =>
    if (s.tree.node table).parent.isSome then
      { s with tree := s.tree.insertTextBefore table content }
    else { s with tree := s.tree.appendText previous content }

/-- Makes an element; a template gets its fragment at once. -/
def createElement (space : Space) (name : String) (attributes : List Attribute) :
    Construction × Nat :=
  let (tree, id) := s.tree.create (.element space name attributes)
  if space = .html ∧ name = "template" then
    let (tree, fragment) := tree.create .fragment
    ({ s with tree := tree.append id fragment }, id)
  else ({ s with tree := tree }, id)

/-- Inserts an element, and opens it unless it is empty by nature. -/
def insertElement (space : Space) (name : String) (attributes : List Attribute) (opens : Bool) :
    Construction × Nat :=
  let (s, id) := s.createElement space name attributes
  let s := s.insertNode s.current id
  (if opens then { s with opened := id :: s.opened } else s, id)

def openTag (tag : Tag) : Construction := (s.insertElement .html tag.name tag.attributes true).1

def insertVoid (tag : Tag) : Construction := (s.insertElement .html tag.name tag.attributes false).1

/-- Opens an element that the text leaves out. -/
def openImplied (name : String) : Construction := (s.insertElement .html name [] true).1

def commentIn (parent : Nat) (content : List Char) : Construction :=
  let (tree, id) := s.tree.create (.comment content)
  { s with tree := tree.append parent id }

def comment (content : List Char) : Construction :=
  let (tree, id) := s.tree.create (.comment content)
  insertNode { s with tree := tree } s.current id

def openText (tag : Tag) (content : Content) : Construction :=
  { s.openTag tag with resume := s.mode, mode := .text, content := content }

end Construction

/-! ### Outcomes -/

def finish (f : Construction → Construction) : Build Outcome := do
  modify f
  return .done

def ignore : Build Outcome := return .done

def retry (mode : Insertion) (item : Item) : Build Outcome := do
  modify fun s => { s with mode := mode }
  return .again item

end Harvest.Html
