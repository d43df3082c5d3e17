import Harvest.Json.Basic
import Harvest.Text.Letter

/-!
JSON values from text.

Every reader takes what is left of the text and gives what it read with the rest; none means that
the text is not JSON.
-/

namespace Harvest.Json

open Harvest.Text

def isSpace (c : Char) : Bool := c == ' ' || c == '\n' || c == '\t' || c == '\r'

def skipSpace (cs : List Char) : List Char := cs.dropWhile isSpace

/-- What stands behind a keyword. -/
def keyword? (word : String) (cs : List Char) : Option (List Char) :=
  if word.toList.isPrefixOf cs then some (cs.drop word.length) else none

/-- The digits that a text begins with, and the rest. -/
def digits (cs : List Char) : List Char × List Char :=
  (cs.takeWhile isAsciiDigit, cs.dropWhile isAsciiDigit)

/-- A number: no zero leads other digits, and digits stand on both sides of a point and behind the
sign of an exponent. -/
def readNumber (cs : List Char) : Option (JsonNumber × List Char) := do
  let (negative, cs) := match cs with
    | '-' :: rest => (true, rest)
    | cs => (false, cs)
  let (whole, cs) := digits cs
  if whole.isEmpty || whole.head? == some '0' && 1 < whole.length then none
  let (places, cs) ← match cs with
    | '.' :: rest =>
      let (ds, rest) := digits rest
      if ds.isEmpty then none else pure (some ds, rest)
    | cs => pure (none, cs)
  let exponentOf (cs : List Char) : Option (Option (Bool × List Char) × List Char) :=
    let (minus, cs) := match cs with
      | '-' :: rest => (true, rest)
      | '+' :: rest => (false, rest)
      | cs => (false, cs)
    let (ds, rest) := digits cs
    if ds.isEmpty then none else some (some (minus, ds), rest)
  let (exponent, cs) ← match cs with
    | 'e' :: rest => exponentOf rest
    | 'E' :: rest => exponentOf rest
    | cs => pure (none, cs)
  return (⟨negative, whole, places, exponent⟩, cs)

def hex4? (a b c d : Char) : Option Nat :=
  if [a, b, c, d].all isAsciiHexDigit then some (hexValue [a, b, c, d]) else none

/-- The code points of a string up to its closing quote; escapes may give surrogates. -/
def readUnits : List Char → Option (List Nat × List Char)
  | '"' :: rest => some ([], rest)
  | '\\' :: 'u' :: a :: b :: c :: d :: rest => do
    let n ← hex4? a b c d
    let (ns, rest) ← readUnits rest
    return (n :: ns, rest)
  | '\\' :: c :: rest => do
    let n ← match c with
      | '"' => some 34
      | '\\' => some 92
      | '/' => some 47
      | 'b' => some 8
      | 'f' => some 12
      | 'n' => some 10
      | 'r' => some 13
      | 't' => some 9
      | _ => none
    let (ns, rest) ← readUnits rest
    return (n :: ns, rest)
  | c :: rest =>
    if c.toNat < 32 then none
    else do
      let (ns, rest) ← readUnits rest
      return (c.toNat :: ns, rest)
  | [] => none

/-- The characters of code points in which surrogates come in pairs; none for any other. -/
def joinSurrogates : List Nat → Option (List Char)
  | [] => some []
  | n :: ns =>
    if 0xD800 ≤ n && n < 0xDC00 then
      match ns with
      | m :: ms =>
        if 0xDC00 ≤ m && m < 0xE000 then
          (joinSurrogates ms).map (Char.ofNat (0x10000 + (n - 0xD800) * 1024 + (m - 0xDC00)) :: ·)
        else none
      | [] => none
    else if 0xDC00 ≤ n && n < 0xE000 then none
    else (joinSurrogates ns).map (Char.ofNat n :: ·)

/-- A string behind its opening quote; none within for one that spells no text. -/
def readString (cs : List Char) : Option (Option String × List Char) :=
  (readUnits cs).map fun (ns, rest) => ((joinSurrogates ns).map String.ofList, rest)

/-- The fields of an object, if all their names spell texts. -/
def objectOf (fields : List (Option String × Json)) : Json :=
  match fields.mapM fun (key, value) => key.map (·, value) with
  | some fields => .object fields
  | none => .unspeakable

mutual

/-- A value; `fuel` bounds how deep and how wide the text goes and is no less than its length. -/
def readValue (fuel : Nat) (cs : List Char) : Option (Json × List Char) :=
  match fuel with
  | 0 => none
  | fuel + 1 =>
    match skipSpace cs with
    | '"' :: rest =>
      (readString rest).map fun (text, rest) =>
        ((match text with
          | some s => Json.string s
          | none => .unspeakable), rest)
    | '[' :: rest =>
      match skipSpace rest with
      | ']' :: rest => some (.array [], rest)
      | rest => (readMembers fuel rest).map fun (ms, rest) => (.array ms, rest)
    | '{' :: rest =>
      match skipSpace rest with
      | '}' :: rest => some (.object [], rest)
      | rest => (readFields fuel rest).map fun (fields, rest) => (objectOf fields, rest)
    | 'n' :: rest => (keyword? "ull" rest).map (Json.null, ·)
    | 't' :: rest => (keyword? "rue" rest).map (Json.bool true, ·)
    | 'f' :: rest => (keyword? "alse" rest).map (Json.bool false, ·)
    | cs => (readNumber cs).map fun (n, rest) => (.number n, rest)

/-- The members of an array up to its closing bracket. -/
def readMembers (fuel : Nat) (cs : List Char) : Option (List Json × List Char) :=
  match fuel with
  | 0 => none
  | fuel + 1 => do
    let (m, rest) ← readValue fuel cs
    match skipSpace rest with
    | ',' :: rest =>
      let (ms, rest) ← readMembers fuel rest
      return (m :: ms, rest)
    | ']' :: rest => return ([m], rest)
    | _ => none

/-- The fields of an object up to its closing brace. -/
def readFields (fuel : Nat) (cs : List Char) :
    Option (List (Option String × Json) × List Char) :=
  match fuel with
  | 0 => none
  | fuel + 1 => do
    let '"' :: rest := skipSpace cs | none
    let (key, rest) ← readString rest
    let ':' :: rest := skipSpace rest | none
    let (value, rest) ← readValue fuel rest
    match skipSpace rest with
    | ',' :: rest =>
      let (fields, rest) ← readFields fuel rest
      return ((key, value) :: fields, rest)
    | '}' :: rest => return ([(key, value)], rest)
    | _ => none

end

def ofText? (source : String) : Option Json := do
  let cs := source.toList
  let (j, rest) ← readValue (cs.length + 1) cs
  if (skipSpace rest).isEmpty then return j else none

end Harvest.Json
