import Harvest.Html.Table

/-!
HTML text as a document: the rules outside head and body, those for foreign content, and the loop
over the tokens.

Every text yields a document with a head and a body or a set of frames. The rules take a token again
after changing the mode; the number of times is bounded by what is open.
-/

namespace Harvest.Html

open Construction

def openRoot (attributes : List Markup.Attribute) (s : Construction) : Construction :=
  let (s, id) := s.createElement .html "html" attributes
  { s with tree := s.tree.append 0 id, opened := id :: s.opened, mode := .beforeHead }

def initially (item : Item) : Build Outcome :=
  match item with
  | .blanks _ => ignore
  | .comment content => finish (·.commentIn 0 content)
  | _ => do
    modify fun s => { s with oldRules := true }
    retry .beforeHtml item

def beforeHtml (item : Item) : Build Outcome :=
  match item with
  | .blanks _ => ignore
  | .comment content => finish (·.commentIn 0 content)
  | .startTag tag => if tag.name = "html" then finish (openRoot tag.attributes) else imply
  | .endTag tag => if ["head", "body", "html", "br"].contains tag.name then imply else ignore
  | _ => imply
where
  imply : Build Outcome := do
    modify (openRoot [])
    retry .beforeHead item

def openHead (attributes : List Markup.Attribute) (s : Construction) : Construction :=
  let (s, id) := s.insertElement .html "head" attributes true
  { s with head := some id, mode := .inHead }

def beforeHead (item : Item) : Build Outcome :=
  match item with
  | .blanks _ => ignore
  | .comment content => finish (·.comment content)
  | .startTag tag =>
    if tag.name = "html" then inBody item
    else if tag.name = "head" then finish (openHead tag.attributes)
    else imply
  | .endTag tag => if ["head", "body", "html", "br"].contains tag.name then imply else ignore
  | _ => imply
where
  imply : Build Outcome := do
    modify (openHead [])
    return .again item

def afterHead (item : Item) : Build Outcome :=
  match item with
  | .blanks content => finish (·.insertText content)
  | .comment content => finish (·.comment content)
  | .startTag tag =>
    let name := tag.name
    if name = "html" then inBody item
    else if name = "body" then
      finish fun s => { s.openTag tag with framesetOk := false, mode := .inBody }
    else if name = "frameset" then finish fun s => { s.openTag tag with mode := .inFrameset }
    else if ["base", "basefont", "bgsound", "link", "meta", "noframes", "script", "style",
        "template", "title"].contains name then do
      let head := (← get).head.getD 0
      modify fun s => { s with opened := head :: s.opened }
      let outcome ← inHead item
      modify (·.removeFromStack head)
      return outcome
    else if name = "head" then ignore
    else imply
  | .endTag tag =>
    if tag.name = "template" then inHead item
    else if ["body", "html", "br"].contains tag.name then imply
    else ignore
  | _ => imply
where
  imply : Build Outcome := do
    modify (·.openImplied "body")
    retry .inBody item

def afterBody (item : Item) : Build Outcome :=
  match item with
  | .blanks _ => inBody item
  | .comment content => finish fun s => s.commentIn s.htmlElement content
  | .eof => ignore
  | .startTag tag => if tag.name = "html" then inBody item else retry .inBody item
  | .endTag tag =>
    if tag.name = "html" then finish fun s => { s with mode := .afterAfterBody }
    else retry .inBody item
  | _ => retry .inBody item

def afterAfterBody (item : Item) : Build Outcome :=
  match item with
  | .blanks _ => inBody item
  | .comment content => finish (·.commentIn 0 content)
  | .eof => ignore
  | .startTag tag => if tag.name = "html" then inBody item else retry .inBody item
  | _ => retry .inBody item

def inFrameset (item : Item) : Build Outcome :=
  match item with
  | .blanks content => finish (·.insertText content)
  | .comment content => finish (·.comment content)
  | .startTag tag =>
    if tag.name = "html" then inBody item
    else if tag.name = "frameset" then finish (·.openTag tag)
    else if tag.name = "frame" then finish (·.insertVoid tag)
    else if tag.name = "noframes" then inHead item
    else ignore
  | .endTag tag =>
    if tag.name = "frameset" then
      finish fun s =>
        if s.opened.length = 1 then s
        else
          let s := s.pop
          if s.currentIs "frameset" then s else { s with mode := .afterFrameset }
    else ignore
  | _ => ignore

def afterFrameset (item : Item) : Build Outcome :=
  match item with
  | .blanks content => finish (·.insertText content)
  | .comment content => finish (·.comment content)
  | .startTag tag =>
    if tag.name = "html" then inBody item
    else if tag.name = "noframes" then inHead item
    else ignore
  | .endTag tag =>
    if tag.name = "html" then finish fun s => { s with mode := .afterAfterFrameset } else ignore
  | _ => ignore

/-- The rules behind everything, where there are frames. -/
def afterAfterFrameset (item : Item) : Build Outcome :=
  match item with
  | .blanks _ => inBody item
  | .comment content => finish (·.commentIn 0 content)
  | .startTag tag =>
    if tag.name = "html" then inBody item
    else if tag.name = "noframes" then inHead item
    else ignore
  | _ => ignore

def rules : Insertion → Item → Build Outcome
  | .initial => initially
  | .beforeHtml => beforeHtml
  | .beforeHead => beforeHead
  | .inHead => inHead
  | .afterHead => afterHead
  | .inBody => inBody
  | .text => inText
  | .inTable => inTable
  | .inTableText => inTableText
  | .inCaption => inCaption
  | .inColumnGroup => inColumnGroup
  | .inTableBody => inTableBody
  | .inRow => inRow
  | .inCell => inCell
  | .inSelect => inSelect
  | .inSelectInTable => inSelectInTable
  | .inTemplate => inTemplate
  | .afterBody => afterBody
  | .inFrameset => inFrameset
  | .afterFrameset => afterFrameset
  | .afterAfterBody => afterAfterBody
  | .afterAfterFrameset => afterAfterFrameset

/-! ### Foreign content -/

/-- Start tags that end foreign content. -/
def breakoutNames : List String :=
  ["b", "big", "blockquote", "body", "br", "center", "code", "dd", "div", "dl", "dt", "em", "embed",
    "h1", "h2", "h3", "h4", "h5", "h6", "head", "hr", "i", "img", "li", "listing", "menu", "meta",
    "nobr", "ol", "p", "pre", "ruby", "s", "small", "span", "strong", "strike", "sub", "sup",
    "table", "tt", "u", "ul", "var"]

def Construction.inForeign (s : Construction) : Bool :=
  match s.currentName with
  | some (.html, _) => false
  | some _ => true
  | none => false

def isForeign (s : Construction) (item : Item) : Bool :=
  s.inForeign &&
    match item with
    | .eof => false
    | .comment _ => true
    | .endTag _ => true
    | .startTag tag =>
      !(mathTextPoint s.currentName && tag.name != "mglyph" && tag.name != "malignmark") &&
        !svgHtmlPoint s.currentName &&
        !(s.currentName == some (.mathml, "annotation-xml") && tag.name == "svg")
    | _ => !mathTextPoint s.currentName && !svgHtmlPoint s.currentName

/-- Ends foreign content before a start tag that cannot stand in it. -/
def breakOut (tag : Tag) : Build Outcome := do
  modify fun s => s.pop.popUntilCurrent fun e =>
    (match e with
      | some (.html, _) => true
      | _ => false) || mathTextPoint e || svgHtmlPoint e
  return .again (.startTag tag)

/-- The rules for foreign content. An end tag closes the innermost element of its name; where an
HTML element is met first, the rules of the mode apply. -/
def inForeignContent (item : Item) : Build Outcome :=
  match item with
  | .null => finish (·.insertText [replacement])
  | .blanks content => finish (·.insertText content)
  | .letters content => finish fun s => s.noFrames.insertText content
  | .comment content => finish (·.comment content)
  | .startTag tag =>
    let isPlainFont := tag.name = "font" &&
      !tag.attributes.any fun a => ["color", "face", "size"].contains a.1
    if (breakoutNames.contains tag.name || tag.name = "font") && !isPlainFont then breakOut tag
    else finish fun s =>
      match s.currentName with
      | some (space, _) => s.openForeign space tag
      | none => s
  | .endTag tag => do
    if tag.name = "br" || tag.name = "p" then breakOutEnd tag
    else
      let s ← get
      close s tag true s.opened
  | .eof => ignore
where
  /-- Looks outward for the element that an end tag closes. -/
  close (s : Construction) (tag : Tag) (first : Bool) : List Nat → Build Outcome
    | [] => ignore
    | [_] => ignore
    | id :: outer =>
      match s.nameOf id with
      | some (space, name) =>
        if !first && space = .html then rules s.mode (.endTag tag)
        else if Text.lowerAscii name = tag.name then finish fun s => { s with opened := outer }
        else close s tag false outer
      | none => close s tag false outer
  breakOutEnd (tag : Tag) : Build Outcome := do
    let outcome ← breakOut tag
    match outcome with
    | .again _ => return .again (.endTag tag)
    | .done => return .done

/-! ### The loop over the tokens -/

/-- Takes an item until it is done with, at most as often as given. -/
def settle : Nat → Item → Construction → Construction
  | 0, _, s => s
  | n + 1, item, s =>
    let step := if isForeign s item then inForeignContent item else rules s.mode item
    match step.run s with
    | (.done, s) => s
    | (.again item, s) => settle n item s

def Construction.take (s : Construction) (item : Item) : Construction :=
  settle (3 * s.opened.length + 50) item s

/-- The runs of blanks, of other characters, and of single null characters in a text. -/
def textItems : List Char → List Item
  | [] => []
  | c :: cs =>
    match textItems cs with
    | .blanks more :: rest =>
      if isSpace c then .blanks (c :: more) :: rest else single c :: .blanks more :: rest
    | .letters more :: rest =>
      if isSpace c || c = '\x00' then single c :: .letters more :: rest
      else .letters (c :: more) :: rest
    | rest => single c :: rest
where
  single (c : Char) : Item :=
    if c = '\x00' then .null else if isSpace c then .blanks [c] else .letters [c]

/-- The public identifiers that ask for the rules of old pages, in lower case. -/
def oldPublicStarts : List String :=
  ["-//advasoft ltd//dtd html 3.0 aswedit + extensions//",
    "-//as//dtd html 3.0 aswedit + extensions//", "-//ietf//dtd html 2.0 level 1//",
    "-//ietf//dtd html 2.0 level 2//", "-//ietf//dtd html 2.0 strict level 1//",
    "-//ietf//dtd html 2.0 strict level 2//", "-//ietf//dtd html 2.0 strict//",
    "-//ietf//dtd html 2.0//", "-//ietf//dtd html 2.1e//", "-//ietf//dtd html 3.0//",
    "-//ietf//dtd html 3.2 final//", "-//ietf//dtd html 3.2//", "-//ietf//dtd html 3//",
    "-//ietf//dtd html level 0//", "-//ietf//dtd html level 1//", "-//ietf//dtd html level 2//",
    "-//ietf//dtd html level 3//", "-//ietf//dtd html strict level 0//",
    "-//ietf//dtd html strict level 1//", "-//ietf//dtd html strict level 2//",
    "-//ietf//dtd html strict level 3//", "-//ietf//dtd html strict//", "-//ietf//dtd html//",
    "-//metrius//dtd metrius presentational//",
    "-//microsoft//dtd internet explorer 2.0 html strict//",
    "-//microsoft//dtd internet explorer 2.0 html//",
    "-//microsoft//dtd internet explorer 2.0 tables//",
    "-//microsoft//dtd internet explorer 3.0 html strict//",
    "-//microsoft//dtd internet explorer 3.0 html//",
    "-//microsoft//dtd internet explorer 3.0 tables//",
    "-//netscape comm. corp.//dtd html//", "-//netscape comm. corp.//dtd strict html//",
    "-//o'reilly and associates//dtd html 2.0//",
    "-//o'reilly and associates//dtd html extended 1.0//",
    "-//o'reilly and associates//dtd html extended relaxed 1.0//",
    "-//softquad software//dtd hotmetal pro 6.0::19990601::extensions to html 4.0//",
    "-//softquad//dtd hotmetal pro 4.0::19971010::extensions to html 4.0//",
    "-//spyglass//dtd html 2.0 extended//", "-//sq//dtd html 2.0 hotmetal + extensions//",
    "-//sun microsystems corp.//dtd hotjava html//",
    "-//sun microsystems corp.//dtd hotjava strict html//", "-//w3c//dtd html 3 1995-03-24//",
    "-//w3c//dtd html 3.2 draft//", "-//w3c//dtd html 3.2 final//", "-//w3c//dtd html 3.2//",
    "-//w3c//dtd html 3.2s draft//", "-//w3c//dtd html 4.0 frameset//",
    "-//w3c//dtd html 4.0 transitional//", "-//w3c//dtd html experimental 19960712//",
    "-//w3c//dtd html experimental 970421//", "-//w3c//dtd w3 html//", "-//w3o//dtd w3 html 3.0//",
    "-//webtechs//dtd mozilla html 2.0//", "-//webtechs//dtd mozilla html//"]

def oldPublicIds : List String :=
  ["-//w3o//dtd w3 html strict 3.0//en//", "-/w3c/dtd html 4.0 transitional/en", "html"]

def oldSystemId : String := "http:" ++ "//www.ibm.com/data/dtd/v11/ibmxhtml1-transitional.dtd"

/-- The public identifiers that ask for them where there is no system identifier. -/
def loosePublicStarts : List String :=
  ["-//w3c//dtd html 4.01 frameset//", "-//w3c//dtd html 4.01 transitional//"]

def Doctype.isOld (d : Doctype) : Bool :=
  let publicId := d.publicId.map Text.lowerAscii
  let systemId := d.systemId.map Text.lowerAscii
  let starts (table : List String) : Bool := match publicId with
    | some p => table.any fun start => start.toList.isPrefixOf p.toList
    | none => false
  d.forceOld || d.name != some "html" ||
    (match publicId with
      | some p => oldPublicIds.contains p
      | none => false) ||
    systemId == some oldSystemId || starts oldPublicStarts ||
    (starts loosePublicStarts && systemId.isNone)

/-- Takes a token. A document type counts only before anything else. -/
def Construction.takeToken (s : Construction) (token : Token) : Construction :=
  let dropNewline := s.dropNewline
  let s := { s with dropNewline := false }
  match token with
  | .doctype d =>
    if s.mode = .initial then { s with oldRules := d.isOld, mode := .beforeHtml } else s
  | .startTag tag => s.take (.startTag tag)
  | .endTag tag => s.take (.endTag tag)
  | .comment content => s.take (.comment content)
  | .text content =>
    let content := match dropNewline, content with
      | true, '\n' :: rest => rest
      | _, content => content
    (textItems content).foldl Construction.take s

/-- Takes the tokens of a text, each of which leaves less of it. -/
def takeAll (s : Construction) (cs : List Char) : Construction :=
  match cs with
  | [] => s
  | c :: rest =>
    let r := nextToken s.content s.inForeign c rest
    let next := match r.value with
      | some token => s.takeToken token
      | none => s
    if _shorter : r.rest.length < (c :: rest).length then takeAll next r.rest else next
  termination_by cs.length
  decreasing_by exact _shorter

/-- The document of a text. A byte order mark before it is not part of it. -/
def parse (source : String) : Markup.Document :=
  let cs := match source.toList with
    | '\uFEFF' :: rest => rest
    | cs => cs
  ((takeAll .start (normalizeLines cs)).take .eof).tree.toDocument

end Harvest.Html
