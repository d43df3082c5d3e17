import Harvest.Regex.Class
import Harvest.Regex.Syntax
import Harvest.Text.Letter

/-!
What a backslash begins in a regular expression, and the flags that decide how it is read.

Every reader takes what follows and gives what it read with the rest of the text; none means that
the text is no regular expression.
-/

namespace Harvest.Regex

open Harvest.Text

/-- The flags in force at a place of an expression. -/
structure Flags where
  anyCase : Bool
  manyLines : Bool
  dotAll : Bool
  lazyFirst : Bool
  unicode : Bool
  carriage : Bool
  spaced : Bool
  deriving DecidableEq, Repr

/-- The flags at the beginning: Unicode is on and all else is off. -/
def Flags.default : Flags := ⟨false, false, false, false, true, false, false⟩

/-- What is left after blanks and comments; `inComment` says that a comment has begun. -/
def skipSpace (inComment : Bool) : List Char → List Char
  | [] => []
  | c :: cs =>
    if inComment then skipSpace (c != '\n') cs
    else if isBlank c then skipSpace false cs
    else if c = '#' then skipSpace true cs
    else c :: cs

/-- What is left after blanks and comments where they do not count, else everything. -/
def Flags.skip (f : Flags) (cs : List Char) : List Char :=
  if f.spaced then skipSpace false cs else cs

inductive Escape
  /-- A character; `byte` marks one given by two hexadecimal digits. -/
  | char (c : Char) (byte : Bool)
  | short (cls : ShortClass) (negated : Bool)
  | property (set : CodeSet) (negated : Bool)
  | look (condition : Look)

/-- The character with a number, none for a number that is no character. -/
def charOf? (n : Nat) : Option Char := if n.isValidChar then some (Char.ofNat n) else none

/-- The text up to a stop character, blanks and comments left out where they do not count, and what
stands behind it. -/
def readUntil (f : Flags) (stop : Char) (inComment : Bool) :
    List Char → Option (List Char × List Char)
  | [] => none
  | c :: cs =>
    if f.spaced && inComment then readUntil f stop (c != '\n') cs
    else if f.spaced && isBlank c then readUntil f stop false cs
    else if f.spaced && c == '#' then readUntil f stop true cs
    else if c == stop then some ([], cs)
    else (readUntil f stop false cs).map fun (inner, rest) => (c :: inner, rest)

/-- So many hexadecimal digits. -/
def readHexDigits (f : Flags) : Nat → List Char → Option (List Char × List Char)
  | 0, cs => some ([], cs)
  | n + 1, cs =>
    match f.skip cs with
    | c :: rest =>
      if isAsciiHexDigit c then
        (readHexDigits f n rest).map fun (digits, rest) => (c :: digits, rest)
      else none
    | [] => none

/-- A character by its number: in braces, or with a fixed count of digits. -/
def readHex (f : Flags) (count : Nat) (cs : List Char) : Option (Escape × List Char) := do
  match f.skip cs with
  | '{' :: inside =>
    let (digits, rest) ← readUntil f '}' false inside
    if digits.isEmpty || !digits.all isAsciiHexDigit then none
    else return (.char (← charOf? (hexValue digits)) false, rest)
  | cs =>
    let (digits, rest) ← readHexDigits f count cs
    return (.char (← charOf? (hexValue digits)) (count == 2), rest)

/-- A property: one letter, or a name in braces. -/
def readProperty (f : Flags) (negated : Bool) (cs : List Char) :
    Option (Escape × List Char) := do
  match f.skip cs with
  | '{' :: inside =>
    let (name, rest) ← readUntil f '}' false inside
    return (.property (← propertyClass? name) negated, rest)
  | c :: rest =>
    if c = '\\' then none else return (.property (← namedSet? [c]) negated, rest)
  | [] => none

/-- The word edges that have names. -/
def WordEdge.ofName? (name : List Char) : Option WordEdge :=
  match String.ofList name with
  | "start" => some .start
  | "end" => some .stop
  | "start-half" => some .startHalf
  | "end-half" => some .stopHalf
  | _ => none

/-- What follows the letter of a word boundary: a name in braces makes it another edge; braces that
begin with anything but a letter or a hyphen belong to a repetition. -/
def readWordEdge (f : Flags) (cs : List Char) : Option (WordEdge × List Char) :=
  let named (c : Char) := isAsciiLetter c || c == '-'
  match cs with
  | '{' :: inside =>
    match f.skip inside with
    | [] => none
    | c :: _ =>
      if named c then do
        let (name, rest) ← readUntil f '}' false inside
        return (← WordEdge.ofName? name, rest)
      else some (.boundary, cs)
  | _ => some (.boundary, cs)

/-- The characters with a meaning of their own. -/
def isMeta (c : Char) : Bool := "\\.+*?()|[]\x7b\x7d^$#&-~".toList.contains c

def readEscape (f : Flags) : List Char → Option (Escape × List Char)
  | [] => none
  | c :: rest =>
    match ShortClass.ofLetter? c with
    | some (cls, negated) => some (.short cls negated, rest)
    | none =>
      let edge (e : WordEdge) : Escape := .look (.word (!f.unicode) e)
      match c with
      | 'x' => readHex f 2 rest
      | 'u' => readHex f 4 rest
      | 'U' => readHex f 8 rest
      | 'p' => readProperty f false rest
      | 'P' => readProperty f true rest
      | 'a' => some (.char '\x07' false, rest)
      | 'f' => some (.char '\x0c' false, rest)
      | 't' => some (.char '\t' false, rest)
      | 'n' => some (.char '\n' false, rest)
      | 'r' => some (.char '\r' false, rest)
      | 'v' => some (.char '\x0b' false, rest)
      | 'A' => some (.look .textStart, rest)
      | 'z' => some (.look .textEnd, rest)
      | 'b' => (readWordEdge f rest).map fun (e, rest) => (edge e, rest)
      | 'B' => some (edge .inside, rest)
      | '<' => some (edge .start, rest)
      | '>' => some (edge .stop, rest)
      | c =>
        if isMeta c || c.toNat < 128 && !isAsciiAlphanumeric c then some (.char c false, rest)
        else none

/-- A set with the other case of its ASCII letters. -/
def closeAsciiCase (s : CodeSet) : CodeSet :=
  let shifted (source target : Nat) : List CodeSet :=
    ((s.inter (.range source (source + 25))).ranges).map fun (a, b) =>
      .range (a - source + target) (b - source + target)
  CodeSet.unions (s :: shifted 65 97 ++ shifted 97 65)

/-- A set with all case variants where case does not count. -/
def Flags.close (f : Flags) (s : CodeSet) : CodeSet :=
  if f.anyCase then (if f.unicode then s.closeCase else closeAsciiCase s) else s

/-- What is not in a set, among all characters or, with Unicode off, among single bytes. -/
def Flags.complement (f : Flags) (s : CodeSet) : CodeSet :=
  if f.unicode then s.compl else (CodeSet.range 0 255).diff s

/-- Whether a set holds characters only; with Unicode off the bytes above ASCII are none. -/
def Flags.admits (f : Flags) (s : CodeSet) : Bool :=
  f.unicode || (s.inter (.range 128 255)).bounds.isEmpty

/-- The characters of an escape within a class, none where it stands for no characters. -/
def Escape.set? (f : Flags) : Escape → Option CodeSet
  | .char c _ => if f.unicode || c.toNat < 128 then some (.single c.toNat) else none
  | .short cls negated =>
    let s := cls.set (!f.unicode)
    let s := if negated then f.complement s else s
    if f.admits s then some s else none
  | .property s negated =>
    if !f.unicode then none
    else
      let s := f.close s
      some (if negated then s.compl else s)
  | .look _ => none

def charNode? (f : Flags) (c : Char) : Option Node :=
  if f.unicode || c.toNat < 128 then some (.oneOf (f.close (.single c.toNat)))
  else if f.anyCase then none
  else some (.oneOf (.single c.toNat))

def Escape.node? (f : Flags) : Escape → Option Node
  | .char c byte =>
    if byte && !f.unicode && 128 ≤ c.toNat then none else charNode? f c
  | .look condition => some (.look condition)
  | other => (other.set? f).map .oneOf

end Harvest.Regex
