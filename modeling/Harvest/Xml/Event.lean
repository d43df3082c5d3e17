import Harvest.Text.Blank
import Harvest.Text.Letter
import Harvest.Xml.Attribute

/-!
XML text as a sequence of events.

Tags, character data, comments and the rest are reported one after the other, up to the end of the
text or to the first place that breaks the syntax. Where end tags are checked, each has to bear the
name of the innermost open start tag.
-/

namespace Harvest.Xml

open Harvest.Text

inductive Event
  | startTag (tag : Tag)
  /-- A tag that is both start and end. -/
  | emptyTag (tag : Tag)
  | endTag (name : List Char)
  /-- Character data with its references as written. -/
  | text (raw : List Char)
  /-- Character data without references. -/
  | cdata (content : List Char)
  | comment (content : List Char)
  /-- A declaration, a processing instruction or a document type. -/
  | aside
  deriving DecidableEq, Repr

inductive Fault
  | unknownMarkup
  | unclosedInstruction
  | unclosedComment
  | unclosedDoctype
  | unclosedCData
  | unclosedTag
  | unnamedDoctype
  | unmatchedEnd (name : String)
  | mismatchedEnd (expected found : String)
  deriving DecidableEq, Repr

def Fault.message : Fault → String
  | .unknownMarkup => "syntax error: unknown or missed symbol in markup"
  | .unclosedInstruction =>
    "syntax error: processing instruction or xml declaration not closed: " ++
      "\x60?>\x60 not found before end of input"
  | .unclosedComment =>
    "syntax error: comment not closed: \x60-->\x60 not found before end of input"
  | .unclosedDoctype =>
    "syntax error: DOCTYPE not closed: \x60>\x60 not found before end of input"
  | .unclosedCData =>
    "syntax error: CDATA not closed: \x60]]>\x60 not found before end of input"
  | .unclosedTag => "syntax error: tag not closed: \x60>\x60 not found before end of input"
  | .unnamedDoctype => "ill-formed document: \x60<!DOCTYPE>\x60 declaration does not contain " ++
      "a name of a document type"
  | .unmatchedEnd name =>
    "ill-formed document: close tag \x60</" ++ name ++ ">\x60 does not match any open tag"
  | .mismatchedEnd expected found =>
    "ill-formed document: expected \x60</" ++ expected ++ ">\x60, but \x60</" ++ found ++
      ">\x60 was found"

/-- A break of the syntax, with the byte offset reached when it was found. -/
structure Failure where
  position : Nat
  fault : Fault
  deriving DecidableEq, Repr

def Failure.message (f : Failure) : String :=
  "at byte " ++ toString f.position ++ ": " ++ f.fault.message

/-- The number of characters before the first closing bracket at which `done` holds of what
precedes it, nearest first. -/
def closeIndex (done : List Char → Bool) (seen : List Char) : List Char → Option Nat
  | [] => none
  | c :: cs =>
    if c == '>' && done seen then some seen.length else closeIndex done (c :: seen) cs

/-- The number of characters before the first closing bracket outside quotes; `quote` is the open
quote. -/
def tagIndex (quote : Option Char) (n : Nat) : List Char → Option Nat
  | [] => none
  | c :: cs =>
    match quote with
    | some q => tagIndex (if c == q then none else some q) (n + 1) cs
    | none =>
      if c == '>' then some n
      else tagIndex (if c == '"' || c == '\'' then some c else none) (n + 1) cs

def balanced (seen : List Char) : Bool := seen.count '<' == seen.count '>'

/-- Whether a comment can end behind these characters, nearest first. -/
def endsComment : List Char → Bool
  | '-' :: '-' :: before => 2 ≤ before.length
  | _ => false

def endsCData : List Char → Bool
  | ']' :: ']' :: _ => true
  | _ => false

def endsInstruction : List Char → Bool
  | '?' :: _ => true
  | _ => false

/-- The event of what stands between `<!` and `>`, by its first character. -/
def bangEvent (content : List Char) : Except Fault Event :=
  match content with
  | '-' :: _ =>
    match content with
    | '-' :: '-' :: rest => .ok (.comment (rest.take (rest.length - 2)))
    | _ => .error .unclosedComment
  | '[' :: _ =>
    let opening := "[CDATA[".toList
    if opening.isPrefixOf content then
      .ok (.cdata ((content.drop 7).take (content.length - 9)))
    else .error .unclosedCData
  | _ =>
    if (content.take 7).map lowerAsciiChar == "doctype".toList then
      if (content.drop 7).all isSpace then .error .unnamedDoctype else .ok .aside
    else .error .unclosedDoctype

/-- How far the construct that begins with `<!` reaches, and the fault if it does not end. -/
def bangExtent (cs : List Char) : Except Fault (Option Nat × Fault) :=
  match cs with
  | '[' :: _ => .ok (closeIndex endsCData [] cs, .unclosedCData)
  | '-' :: _ => .ok (closeIndex endsComment [] cs, .unclosedComment)
  | 'D' :: _ => .ok (closeIndex balanced [] cs, .unclosedDoctype)
  | 'd' :: _ => .ok (closeIndex balanced [] cs, .unclosedDoctype)
  | _ => .error .unknownMarkup

/-- The name of an end tag: its content without the blanks behind it, or all of it where it is
blank. -/
def endName (content : List Char) : List Char :=
  let trimmed := (content.reverse.dropWhile isSpace).reverse
  if trimmed.isEmpty then content else trimmed

/-- The open names after an end tag. They are given innermost first, and are none where end tags are
not checked. -/
def closeName (opened : Option (List (List Char))) (name : List Char) :
    Except Fault (Option (List (List Char))) :=
  match opened with
  | none => .ok none
  | some [] => .error (.unmatchedEnd (String.ofList name))
  | some (expected :: outer) =>
    if name = expected then .ok (some outer)
    else .error (.mismatchedEnd (String.ofList expected) (String.ofList name))

/-- What follows an opening bracket: its event, the open names after it, and the number of
characters it takes; or the fault with the number of characters passed over. -/
def readMarkup (opened : Option (List (List Char))) (cs : List Char) :
    Except (Nat × Fault) (Event × Option (List (List Char)) × Nat) :=
  match cs with
  | [] => .error (0, .unclosedTag)
  | '!' :: rest =>
    match bangExtent rest with
    | .error fault => .error (0, fault)
    | .ok (none, fault) => .error (cs.length, fault)
    | .ok (some n, _) =>
      match bangEvent (rest.take n) with
      | .error fault => .error (n + 2, fault)
      | .ok event => .ok (event, opened, n + 2)
  | '?' :: _ =>
    match closeIndex endsInstruction [] cs with
    | none => .error (cs.length, .unclosedInstruction)
    | some n => if n ≤ 1 then .error (n + 1, .unclosedInstruction) else .ok (.aside, opened, n + 1)
  | '/' :: rest =>
    match tagIndex none 0 rest with
    | none => .error (cs.length, .unclosedTag)
    | some n =>
      let name := endName (rest.take n)
      match closeName opened name with
      | .error fault => .error (n + 2, fault)
      | .ok opened => .ok (.endTag name, opened, n + 2)
  | cs =>
    match tagIndex none 0 cs with
    | none => .error (cs.length, .unclosedTag)
    | some n =>
      let content := cs.take n
      match content.getLast? with
      | some '/' => .ok (.emptyTag ⟨content.dropLast⟩, opened, n + 1)
      | _ => .ok (.startTag ⟨content⟩, opened.map (Tag.name ⟨content⟩ :: ·), n + 1)

/-- The events of the rest of a text from a byte offset on, and why they end before it does. -/
def eventsFrom (opened : Option (List (List Char))) (offset : Nat) (cs : List Char) :
    List Event × Option Failure :=
  match cs with
  | [] => ([], none)
  | '<' :: rest =>
    match readMarkup opened rest with
    | .error (taken, fault) => ([], some ⟨offset + 1 + byteSize (rest.take taken), fault⟩)
    | .ok (event, opened, taken) =>
      let (events, failure) :=
        eventsFrom opened (offset + 1 + byteSize (rest.take taken)) (rest.drop taken)
      (event :: events, failure)
  | c :: rest =>
    let more := rest.takeWhile (· != '<')
    let (events, failure) :=
      eventsFrom opened (offset + c.utf8Size + byteSize more) (rest.drop more.length)
    (.text (c :: more) :: events, failure)
  termination_by cs.length
  decreasing_by all_goals simp only [List.length_drop, List.length_cons]; omega

/-- The events of a text. A byte order mark before it is not part of it. -/
def events (checked : Bool) (source : String) : List Event × Option Failure :=
  let cs := source.toList
  let body := match cs with
    | '\uFEFF' :: rest => rest
    | _ => cs
  eventsFrom (if checked then some [] else none) 0 body

end Harvest.Xml
