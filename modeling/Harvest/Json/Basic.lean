import Harvest.Decimal
import Harvest.Text.Blank
import Harvest.Url.Percent

/-!
JSON values and how they are written.
-/

namespace Harvest

/-- A number as it is written: its sign, the digits before and behind the point, and the exponent
with its sign. -/
structure JsonNumber where
  negative : Bool
  whole : List Char
  places : Option (List Char)
  exponent : Option (Bool × List Char)
  deriving DecidableEq, Repr

inductive Json
  | null
  | bool (b : Bool)
  | number (n : JsonNumber)
  | string (text : String)
  | array (members : List Json)
  | object (fields : List (String × Json))
  /-- Something that is written correctly but spells no text, such as half a surrogate pair. -/
  | unspeakable
  deriving Inhabited

namespace Json

/-- A character as it stands between quotes. -/
def escapeChar (c : Char) : List Char :=
  match c with
  | '"' => ['\\', '"']
  | '\\' => ['\\', '\\']
  | '\n' => ['\\', 'n']
  | '\r' => ['\\', 'r']
  | '\t' => ['\\', 't']
  | c =>
    let n := c.toNat
    if n = 8 then ['\\', 'b']
    else if n = 12 then ['\\', 'f']
    else if n < 32 then
      ['\\', 'u', '0', '0', Url.hexChar false (n / 16), Url.hexChar false (n % 16)]
    else [c]

def quote (s : String) : String := "\"" ++ String.ofList (s.toList.flatMap escapeChar) ++ "\""

def numberText (n : JsonNumber) : String :=
  (if n.negative then "-" else "") ++ String.ofList n.whole ++ (match n.places with
    | some ds => "." ++ String.ofList ds
    | none => "") ++ (match n.exponent with
    | some (negative, ds) => "e" ++ (if negative then "-" else "") ++ String.ofList ds
    | none => "")

/-- A line break and the indentation of a level, two blanks to a level. -/
def lineBreak (level : Nat) : String := "\n" ++ String.ofList (List.replicate (2 * level) ' ')

mutual

/-- A value over several lines, every member on a line of its own. -/
def pretty (level : Nat) (j : Json) : String :=
  match j with
  | .null => "null"
  | .bool b => if b then "true" else "false"
  | .number n => numberText n
  | .string text => quote text
  | .array [] => "[]"
  | .array (m :: ms) =>
    "[" ++ lineBreak (level + 1) ++ m.pretty (level + 1) ++ prettyMembers (level + 1) ms ++
      lineBreak level ++ "]"
  | .object [] => "\x7b\x7d"
  | .object ((key, value) :: fields) =>
    "\x7b" ++ lineBreak (level + 1) ++ quote key ++ ": " ++ value.pretty (level + 1) ++
      prettyFields (level + 1) fields ++ lineBreak level ++ "\x7d"
  | .unspeakable => "null"

def prettyMembers (level : Nat) (ms : List Json) : String :=
  match ms with
  | [] => ""
  | m :: ms => "," ++ lineBreak level ++ m.pretty level ++ prettyMembers level ms

def prettyFields (level : Nat) (fields : List (String × Json)) : String :=
  match fields with
  | [] => ""
  | (key, value) :: fields =>
    "," ++ lineBreak level ++ quote key ++ ": " ++ value.pretty level ++ prettyFields level fields

end

end Json

end Harvest
