import Harvest.Html.Construction

/-!
Formatting elements that are closed in the wrong order.

A list of the formatting elements that were opened tells which of them to open again when content
goes on. An end tag that crosses other elements is repaired by moving nodes, so that each element
covers what its tags enclose.
-/

namespace Harvest.Html

namespace Construction

variable (s : Construction)

/-- The entries since the last marker, latest first. -/
def recentFormatting : List Entry := s.formatting.takeWhile (· != .marker)

def Entry.isFor (id : Nat) : Entry → Bool
  | .marker => false
  | .element other _ => other == id

def addMarker : Construction := { s with formatting := .marker :: s.formatting }

/-- Forgets the entries up to the last marker, and the marker. -/
def clearToMarker : Construction :=
  { s with formatting := (s.formatting.dropWhile (· != .marker)).drop 1 }

def forgetFormatting (id : Nat) : Construction :=
  { s with formatting := s.formatting.filter fun e => !Entry.isFor id e }

/-- Whether two tags have the same name and the same attributes in any order. -/
def sameTag (a b : Tag) : Bool :=
  a.name == b.name && a.attributes.length == b.attributes.length &&
    a.attributes.all fun x => b.attributes.contains x

/-- Opens a formatting element. Of three like it since the last marker, the earliest is
forgotten. -/
def openFormatting (tag : Tag) : Construction :=
  let like := s.recentFormatting.filter fun
    | .element _ t => sameTag tag t
    | .marker => false
  let s := if like.length < 3 then s else
    match like.getLast? with
    | some (.element id _) => s.forgetFormatting id
    | _ => s
  let (s, id) := s.insertElement .html tag.name tag.attributes true
  { s with formatting := .element id tag :: s.formatting }

/-- Opens again the formatting elements that were closed since the last one that is open. -/
def reconstructFormatting : Construction :=
  let closed := s.formatting.takeWhile fun
    | .marker => false
    | .element id _ => !s.opened.contains id
  let (s, reopened) := closed.reverse.foldl (fun (s, reopened) e =>
    match e with
    | .marker => (s, e :: reopened)
    | .element _ tag =>
      let (s, id) := Construction.insertElement s .html tag.name tag.attributes true
      (s, .element id tag :: reopened)) (s, ([] : List Entry))
  { s with formatting := reopened ++ s.formatting.drop closed.length }

/-- Closes the innermost element of a name, unless an element that ends such a search is met
first. -/
def closeOther (name : String) : Construction :=
  let before := s.opened.takeWhile fun id =>
    !isHtml name (s.nameOf id) && !inSet specialNames (s.nameOf id)
  match s.opened.drop before.length with
  | [] => s
  | id :: outer =>
    if isHtml name (s.nameOf id) then { s with opened := outer } else s

/-- Where the entry of a formatting element that is moved goes: in place of its own, or behind
another. -/
inductive Bookmark
  | itself
  | after (id : Nat)

/-- Goes outward from the furthest block to the formatting element. The elements between, given
innermost first, are copied where they are to be opened again and are closed where not; each holds
what came before it. Returns the elements that stay open, the last node, and the bookmark. -/
def relink (block last : Nat) (bookmark : Bookmark) :
    Nat → List Nat → Construction → Construction × List Nat × Nat × Bookmark
  | _, [], s => (s, [], last, bookmark)
  | n, id :: outer, s =>
    let entry := s.formatting.find? (Entry.isFor id)
    match entry with
    | some (.element _ tag) =>
      if n > 3 then relink block last bookmark (n + 1) outer (s.forgetFormatting id)
      else
        let (s, copy) := s.createElement .html tag.name tag.attributes
        let s := { s with
          formatting := s.formatting.map fun e =>
            if Entry.isFor id e then .element copy tag else e }
        let bookmark := if last = block then .after copy else bookmark
        let s := { s with tree := (s.tree.detach last).append copy last }
        let (s, kept, last, bookmark) := relink block copy bookmark (n + 1) outer s
        (s, copy :: kept, last, bookmark)
    | _ => relink block last bookmark (n + 1) outer s

/-- Puts an entry behind another one, which is to say in front of it in a list that begins with the
latest. -/
def insertAfter (id : Nat) (entry : Entry) (entries : List Entry) : List Entry :=
  entries.flatMap fun e => if Entry.isFor id e then [entry, e] else [e]

/-- One round of repair for an end tag that crosses other elements; the second component tells
whether another round is due. -/
def adoptionRound (name : String) : Construction × Bool :=
  match s.recentFormatting.find? fun
    | .element _ tag => tag.name == name
    | .marker => false with
  | some (.element formatting tag) =>
    if !s.opened.contains formatting then (s.forgetFormatting formatting, false)
    else if !s.inScope defaultScope (· == formatting) then (s, false)
    else
      let inner := s.opened.takeWhile (· != formatting)
      let outer := s.opened.drop (inner.length + 1)
      match (inner.reverse).find? fun id => inSet specialNames (s.nameOf id) with
      | none => ({ s.forgetFormatting formatting with opened := outer }, false)
      | some block =>
        let above := inner.takeWhile (· != block)
        let between := inner.drop (above.length + 1)
        let ancestor := outer.headD 0
        let (s, kept, last, bookmark) := relink block block .itself 1 between s
        let s := { s with
          tree := s.tree.detach last
          opened := above ++ block :: (kept ++ formatting :: outer) }
        let s := s.insertNode ancestor last
        let (s, copy) := s.createElement .html tag.name tag.attributes
        let s := { s with tree := (s.tree.moveChildren block copy).append block copy }
        let entry := Entry.element copy tag
        let entries := match bookmark with
          | .itself => s.formatting.map fun e => if Entry.isFor formatting e then entry else e
          | .after id =>
            (insertAfter id entry s.formatting).filter fun e => !Entry.isFor formatting e
        ({ s with
            formatting := entries
            opened := above ++ copy :: block :: (kept ++ outer) }, true)
  | _ => (s.closeOther name, false)

def adoptionRounds (name : String) : Nat → Construction → Construction
  | 0, s => s
  | n + 1, s =>
    match s.adoptionRound name with
    | (s, true) => adoptionRounds name n s
    | (s, false) => s

def adopt (name : String) : Construction :=
  let isListed := s.formatting.any (Entry.isFor s.current)
  if s.currentIs name && !isListed then s.pop else adoptionRounds name 8 s

end Construction

end Harvest.Html
