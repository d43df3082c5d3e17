import Harvest.Markup.Document

/-!
Documents as markup text.

Markup characters in text and in attribute values are written as entities, an element without
children as one empty tag.
-/

namespace Harvest.Markup

def escapeTextChar (c : Char) : List Char :=
  if c = '&' then "&amp;".toList
  else if c = '<' then "&lt;".toList
  else if c = '>' then "&gt;".toList
  else [c]

/-- A character of an attribute value as markup; the value stands between double quotes. -/
def escapeValueChar (c : Char) : List Char :=
  if c = '"' then "&quot;".toList else escapeTextChar c

def escapeText (s : String) : String := String.ofList (s.toList.flatMap escapeTextChar)

def escapeValue (s : String) : String := String.ofList (s.toList.flatMap escapeValueChar)

def printAttribute (a : Attribute) : String :=
  " " ++ a.1 ++ "=\"" ++ escapeValue a.2 ++ "\""

def printTagStart (name : String) (attributes : List Attribute) : String :=
  "<" ++ name ++ String.join (attributes.map printAttribute)

namespace Document

def toMarkup (d : Document) (id : Nat) : String :=
  let inner := String.join ((d.children id).attach.map fun ⟨c, _h⟩ => d.toMarkup c)
  match d.kind id with
  | .root => inner
  | .element name attributes =>
    if (d.children id).isEmpty then printTagStart name attributes ++ "/>"
    else printTagStart name attributes ++ ">" ++ inner ++ "</" ++ name ++ ">"
  | .text content => escapeText content
  | .comment content => "<!--" ++ content ++ "-->"
  termination_by d.size - id
  decreasing_by
    have := child_lt _h; omega

end Document

end Harvest.Markup
