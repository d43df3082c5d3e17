import Harvest.Html.Reference
import Harvest.Text.Blank

/-!
Tokens of HTML text.

How a text goes on depends on where it stands: ordinary content has tags and references, the content
of some elements ends only at their own end tag, and within that of others references count. What
cannot be a tag is text, and a tag that the text ends in is dropped.
-/

namespace Harvest.Html

open Harvest.Text

/-- A tag with its name and attribute names in lower case; no attribute name occurs twice. -/
structure Tag where
  name : String
  attributes : List (String × String)
  selfClosing : Bool
  deriving DecidableEq, Repr, Inhabited

structure Doctype where
  name : Option String
  publicId : Option String
  systemId : Option String
  forceOld : Bool
  deriving DecidableEq, Repr

inductive Token
  | doctype (d : Doctype)
  | startTag (tag : Tag)
  | endTag (tag : Tag)
  | comment (content : List Char)
  /-- Text, which may hold null characters in ordinary content. -/
  | text (content : List Char)
  deriving Repr

/-- How the text that comes next is read. Where content ends only at an end tag, its name is
given. -/
inductive Content
  | ordinary
  /-- References count. -/
  | replaceable (name : String)
  | raw (name : String)
  | script (name : String)
  | plain
  deriving DecidableEq, Repr

/-- The characters that separate the parts of a tag. -/
def isSpace (c : Char) : Bool := c == ' ' || c == '\t' || c == '\n' || c == '\x0c' || c == '\r'

/-- A null character becomes the replacement character. -/
def withoutNull (cs : List Char) : List Char :=
  cs.map fun c => if c = '\x00' then replacement else c

/-- Every end of a line is a single line feed. -/
def normalizeLines : List Char → List Char
  | [] => []
  | '\r' :: '\n' :: cs => '\n' :: normalizeLines cs
  | '\r' :: cs => '\n' :: normalizeLines cs
  | c :: cs => c :: normalizeLines cs

/-! ### Tags -/

/-- What was read, and what is left. -/
structure Read (α : Type) where
  value : α
  rest : List Char

/-- Attribute values: in quotes, or up to a blank or the end of the tag. None where the text ends
before the closing quote. -/
def readValue? (cs : List Char) : Option (Read String) :=
  match cs.dropWhile isSpace with
  | '>' :: rest => some ⟨"", '>' :: rest⟩
  | [] => some ⟨"", []⟩
  | c :: rest =>
    if c == '"' || c == '\'' then
      let value := rest.takeWhile (· != c)
      match rest.drop value.length with
      | [] => none
      | _ :: rest => some ⟨String.ofList (withoutNull (resolve true value)), rest⟩
    else
      let value := (c :: rest).takeWhile fun c => !isSpace c && c != '>'
      some ⟨String.ofList (withoutNull (resolve true value)), (c :: rest).drop value.length⟩

/-- The attributes of a tag up to its closing bracket, the earlier of two with one name, and whether
the tag closes itself. None where the text ends before. The fuel bounds the number of parts. -/
def readAttributes? (attributes : List (String × String)) :
    Nat → List Char → Option (Read (List (String × String) × Bool))
  | 0, _ => none
  | fuel + 1, cs =>
    match cs.dropWhile isSpace with
    | [] => none
    | '>' :: rest => some ⟨(attributes, false), rest⟩
    | '/' :: '>' :: rest => some ⟨(attributes, true), rest⟩
    | '/' :: rest => readAttributes? attributes fuel rest
    | c :: rest =>
      let more := rest.takeWhile fun c => !isSpace c && c != '/' && c != '>' && c != '='
      let name := String.ofList (withoutNull ((c :: more).map lowerAsciiChar))
      let keep (value : String) :=
        if attributes.any (·.1 == name) then attributes else attributes ++ [(name, value)]
      match (rest.drop more.length).dropWhile isSpace with
      | '=' :: afterEquals =>
        match readValue? afterEquals with
        | none => none
        | some ⟨value, rest⟩ => readAttributes? (keep value) fuel rest
      | rest => readAttributes? (keep "") fuel rest

/-- A tag whose name begins with the first character. None where the text ends inside it. -/
def readTag? (cs : List Char) : Option (Read Tag) :=
  let name := cs.takeWhile fun c => !isSpace c && c != '/' && c != '>'
  match readAttributes? [] (cs.length + 1) (cs.drop name.length) with
  | none => none
  | some ⟨(attributes, selfClosing), rest⟩ =>
    some ⟨⟨String.ofList (withoutNull (name.map lowerAsciiChar)), attributes, selfClosing⟩, rest⟩

/-! ### Comments and declarations -/

/-- How much of the end of a comment the last characters make up. -/
inductive CommentEnd
  | start | startDash | none | dash | dashes | bang
  deriving DecidableEq, Repr

def readComment (state : CommentEnd) : List Char → Read (List Char)
  | [] => ⟨[], []⟩
  | c :: cs =>
    let go (held : List Char) (state : CommentEnd) : Read (List Char) :=
      let r := readComment state cs
      ⟨held ++ r.value, r.rest⟩
    let plain (held : List Char) := go (held ++ [c]) .none
    match state, c with
    | .start, '>' => ⟨[], cs⟩
    | .start, '-' => go [] .startDash
    | .start, _ => plain []
    | .startDash, '-' => go [] .dashes
    | .startDash, '>' => ⟨[], cs⟩
    | .startDash, _ => plain ['-']
    | .none, '-' => go [] .dash
    | .none, _ => plain []
    | .dash, '-' => go [] .dashes
    | .dash, _ => plain ['-']
    | .dashes, '>' => ⟨[], cs⟩
    | .dashes, '!' => go [] .bang
    | .dashes, '-' => go ['-'] .dashes
    | .dashes, _ => plain ['-', '-']
    | .bang, '-' => go ['-', '-', '!'] .dash
    | .bang, '>' => ⟨[], cs⟩
    | .bang, _ => plain ['-', '-', '!']

/-- A comment in place of something that cannot be read, up to the next closing bracket. -/
def readBogus (cs : List Char) : Read Token :=
  let content := cs.takeWhile (· != '>')
  ⟨.comment (withoutNull content), cs.drop (content.length + 1)⟩

/-- A text in quotes at the head of a declaration; a closing bracket ends it before its quote does,
which the second component tells. -/
def readIdentifier? (cs : List Char) : Option (Read (String × Bool)) :=
  match cs with
  | c :: rest =>
    if c == '"' || c == '\'' then
      let value := rest.takeWhile fun d => d != c && d != '>'
      let text := String.ofList (withoutNull value)
      match rest.drop value.length with
      | d :: after =>
        if d = '>' then some ⟨(text, false), '>' :: after⟩ else some ⟨(text, true), after⟩
      | [] => some ⟨(text, false), []⟩
    else none
  | [] => none

/-- What a declaration says after its name, up to where it ends: the public identifier, the system
identifier, and whether it is well formed. -/
def readIdentifiers (cs : List Char) : Option String × Option String × Bool :=
  let keyword := (cs.take 6).map lowerAsciiChar
  let system (pub : Option String) (cs : List Char) (required : Bool) :
      Option String × Option String × Bool :=
    match readIdentifier? cs with
    | some ⟨(text, closed), rest⟩ => (pub, some text, closed && !rest.isEmpty)
    | none => (pub, none, !required && cs.head? == some '>')
  if keyword == "public".toList then
    let cs := (cs.drop 6).dropWhile isSpace
    match readIdentifier? cs with
    | some ⟨(text, true), rest⟩ => system (some text) (rest.dropWhile isSpace) false
    | some ⟨(text, false), _⟩ => (some text, none, false)
    | none => (none, none, false)
  else if keyword == "system".toList then
    system none ((cs.drop 6).dropWhile isSpace) true
  else (none, none, cs.head? == some '>')

def readDoctype (cs : List Char) : Read Token :=
  let rest := cs.drop ((cs.takeWhile (· != '>')).length + 1)
  let cs := cs.dropWhile isSpace
  let name := cs.takeWhile fun c => !isSpace c && c != '>'
  let after := (cs.drop name.length).dropWhile isSpace
  if name.isEmpty then ⟨.doctype ⟨none, none, none, true⟩, rest⟩
  else
    let (publicId, systemId, sound) := readIdentifiers after
    ⟨.doctype ⟨some (String.ofList (withoutNull (name.map lowerAsciiChar))), publicId, systemId,
      !sound⟩, rest⟩

/-- What follows an opening bracket with an exclamation mark. -/
def readDeclaration (cs : List Char) : Read Token :=
  match cs with
  | '-' :: '-' :: rest =>
    let r := readComment .start rest
    ⟨.comment (withoutNull r.value), r.rest⟩
  | _ =>
    if (cs.take 7).map lowerAsciiChar == "doctype".toList then readDoctype (cs.drop 7)
    else readBogus cs

/-! ### Text -/

/-- Whether an end tag of that name begins here. -/
def beginsEndTag (name : String) (cs : List Char) : Bool :=
  match cs with
  | '<' :: '/' :: rest =>
    let letters := rest.take name.length
    letters.map lowerAsciiChar == name.toList &&
      match rest.drop letters.length with
      | c :: _ => isSpace c || c == '/' || c == '>'
      | [] => false
  | _ => false

/-- The number of characters before the end tag of that name. -/
def lengthToEndTag (name : String) : List Char → Nat
  | [] => 0
  | c :: cs => if beginsEndTag name (c :: cs) then 0 else lengthToEndTag name cs + 1

/-- Where a script stands: outside comments, in a comment, or in a script inside a comment, with the
number of dashes just read. -/
inductive ScriptState
  | outside
  | comment (dashes : Nat)
  | nested (dashes : Nat)
  deriving DecidableEq, Repr

/-- Whether the characters begin with `script` and the end of a tag name. -/
def beginsScriptName (cs : List Char) : Bool :=
  (cs.take 6).map lowerAsciiChar == "script".toList &&
    match cs.drop 6 with
    | c :: _ => isSpace c || c == '/' || c == '>'
    | [] => false

/-- The state of a script after a character, given what follows it. -/
def ScriptState.next (s : ScriptState) (c : Char) (cs : List Char) : ScriptState :=
  match s with
  | .outside => .outside
  | .comment n =>
    if c = '-' then .comment (min 2 (n + 1))
    else if c = '>' ∧ n = 2 then .outside
    else if c = '<' ∧ beginsScriptName cs then .nested 0
    else .comment 0
  | .nested n =>
    if c = '-' then .nested (min 2 (n + 1))
    else if c = '>' ∧ n = 2 then .outside
    else if c = '<' ∧ cs.head? = some '/' ∧ beginsScriptName (cs.drop 1) then .comment 0
    else .nested 0

/-- The number of characters before the end tag of a script. -/
def scriptLength (name : String) (state : ScriptState) (skip : Nat) : List Char → Nat
  | [] => 0
  | c :: cs =>
    match skip with
    | skip + 1 => scriptLength name state skip cs + 1
    | 0 =>
      let stops := match state with
        | .nested _ => false
        | _ => beginsEndTag name (c :: cs)
      if stops then 0
      else if state = .outside ∧ "<!--".toList.isPrefixOf (c :: cs) then
        scriptLength name (.comment 2) 3 cs + 1
      else scriptLength name (state.next c cs) 0 cs + 1

/-- The number of characters before the closing brackets of character data. -/
def lengthToBrackets : List Char → Nat
  | [] => 0
  | c :: cs => if "]]>".toList.isPrefixOf (c :: cs) then 0 else lengthToBrackets cs + 1

/-! ### Tokens -/

/-- What follows an opening bracket in ordinary content; none where it is text. The token itself is
none where the text ends inside a tag or nothing stands for it. -/
def readMarkup? (cs : List Char) : Option (Read (Option Token)) :=
  match cs with
  | '!' :: rest =>
    let r := readDeclaration rest
    some ⟨some r.value, r.rest⟩
  | '/' :: '>' :: rest => some ⟨none, rest⟩
  | '/' :: c :: rest =>
    if isAsciiLetter c then
      match readTag? (c :: rest) with
      | some ⟨tag, rest⟩ => some ⟨some (.endTag tag), rest⟩
      | none => some ⟨none, []⟩
    else
      let r := readBogus (c :: rest)
      some ⟨some r.value, r.rest⟩
  | '?' :: _ =>
    let r := readBogus cs
    some ⟨some r.value, r.rest⟩
  | c :: _ =>
    if isAsciiLetter c then
      match readTag? cs with
      | some ⟨tag, rest⟩ => some ⟨some (.startTag tag), rest⟩
      | none => some ⟨none, []⟩
    else none
  | [] => none

def nextOrdinary (c : Char) (cs : List Char) : Read (Option Token) :=
  if c = '<' then
    match readMarkup? cs with
    | some r => r
    | none => ⟨some (.text ['<']), cs⟩
  else
    let more := cs.takeWhile (· != '<')
    ⟨some (.text (resolve false (c :: more))), cs.drop more.length⟩

/-- Text of a given length, and after it whatever ordinary content is there. -/
def takeText (length : Nat) (change : List Char → List Char) (cs : List Char) :
    Read (Option Token) :=
  match length, cs with
  | 0, c :: cs => nextOrdinary c cs
  | n, cs => ⟨some (.text (change (cs.take n))), cs.drop n⟩

/-- Character data after its opening brackets. -/
def readCData (cs : List Char) : Read (Option Token) :=
  let n := lengthToBrackets cs
  ⟨some (.text (cs.take n)), cs.drop (n + 3)⟩

/-- The next token, which may be nothing. Only in foreign content is there character data in
brackets. -/
def nextToken (content : Content) (foreign : Bool) (c : Char) (cs : List Char) :
    Read (Option Token) :=
  match content with
  | .ordinary =>
    if foreign && "<![CDATA[".toList.isPrefixOf (c :: cs) then readCData (cs.drop 8)
    else nextOrdinary c cs
  | .replaceable name =>
    takeText (lengthToEndTag name (c :: cs)) (fun t => withoutNull (resolve false t)) (c :: cs)
  | .raw name => takeText (lengthToEndTag name (c :: cs)) withoutNull (c :: cs)
  | .script name => takeText (scriptLength name .outside 0 (c :: cs)) withoutNull (c :: cs)
  | .plain => ⟨some (.text (withoutNull (c :: cs))), []⟩

end Harvest.Html
