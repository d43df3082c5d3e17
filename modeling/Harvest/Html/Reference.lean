import Harvest.Html.Entity
import Harvest.Text.Letter

/-!
Character references in HTML text.

A numbered reference ends where its digits end; numbers that no character has are replaced. Of the
named references the longest name counts. A name without its semicolon is not taken for one inside
an attribute value where the text goes on like a name or with an equals sign.
-/

namespace Harvest.Html

open Harvest.Text

/-- The characters that the numbers 128 to 159 stand for; the others stand for themselves. -/
def numberedExceptions : List (Nat × Nat) :=
  [(0x80, 0x20AC), (0x82, 0x201A), (0x83, 0x0192), (0x84, 0x201E), (0x85, 0x2026),
    (0x86, 0x2020), (0x87, 0x2021), (0x88, 0x02C6), (0x89, 0x2030), (0x8A, 0x0160),
    (0x8B, 0x2039), (0x8C, 0x0152), (0x8E, 0x017D), (0x91, 0x2018), (0x92, 0x2019),
    (0x93, 0x201C), (0x94, 0x201D), (0x95, 0x2022), (0x96, 0x2013), (0x97, 0x2014),
    (0x98, 0x02DC), (0x99, 0x2122), (0x9A, 0x0161), (0x9B, 0x203A), (0x9C, 0x0153),
    (0x9E, 0x017E), (0x9F, 0x0178)]

def replacement : Char := '\uFFFD'

def numberedChar (n : Nat) : Char :=
  if n = 0 || !n.isValidChar then replacement
  else Char.ofNat ((numberedExceptions.lookup n).getD n)

/-- The value of digits to a base, held at the first number beyond all characters. -/
def digitsValue (base : Nat) (digits : List Char) : Nat :=
  digits.foldl (fun n c => min 0x110000 (n * base + (hexDigit? c).getD 0)) 0

/-- The reference to a numbered character after its number sign, with the characters it takes. -/
def numberedReference? (cs : List Char) : Option (List Char × Nat) :=
  let (base, digits, before) : Nat × List Char × Nat := match cs with
    | 'x' :: rest => (16, rest.takeWhile isAsciiHexDigit, 1)
    | 'X' :: rest => (16, rest.takeWhile isAsciiHexDigit, 1)
    | rest => (10, rest.takeWhile isAsciiDigit, 0)
  if digits.isEmpty then none
  else
    let taken := before + digits.length
    let semicolon := if (cs.drop taken).head? = some ';' then 1 else 0
    some ([numberedChar (digitsValue base digits)], taken + semicolon)

/-- The longest name among the first `n` characters or fewer, with the characters it takes. -/
def longestName? (cs : List Char) : Nat → Option (List Char × Nat)
  | 0 => none
  | n + 1 =>
    match entity? (String.ofList (cs.take (n + 1))) with
    | some text => some (text, n + 1)
    | none => longestName? cs n

/-- The reference to a named character, with the characters it takes. -/
def namedReference? (inValue : Bool) (cs : List Char) : Option (List Char × Nat) :=
  let letters := (cs.takeWhile isAsciiAlphanumeric).length
  match longestName? cs (min 40 (letters + 1)) with
  | none => none
  | some (text, taken) =>
    let closed := (cs.drop (taken - 1)).head? == some ';'
    match cs.drop taken with
    | next :: _ =>
      if inValue && !closed && (next == '=' || isAsciiAlphanumeric next) then none
      else some (text, taken)
    | [] => some (text, taken)

/-- What stands for the reference after an ampersand, with the characters it takes; none where the
ampersand stands for itself. -/
def reference? (inValue : Bool) (cs : List Char) : Option (List Char × Nat) :=
  match cs with
  | '#' :: rest => (numberedReference? rest).map fun (text, taken) => (text, taken + 1)
  | cs => namedReference? inValue cs

def resolve (inValue : Bool) (cs : List Char) : List Char :=
  go 0 cs
where
  /-- `skip` characters of a reference are still to be passed over. -/
  go : Nat → List Char → List Char
    | _, [] => []
    | skip + 1, _ :: cs => go skip cs
    | 0, c :: cs =>
      if c = '&' then
        match reference? inValue cs with
        | some (text, taken) => text ++ go taken cs
        | none => '&' :: go 0 cs
      else c :: go 0 cs

end Harvest.Html
