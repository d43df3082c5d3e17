import Harvest.Regex.Search

/-!
Replacing matches by a template.

In a template a dollar sign before a number or a name stands for what that group matched, and for
nothing where it took no part or does not exist. A name is as long as letters, digits and
underscores go on, or stands in braces. Two dollar signs stand for one, and a dollar sign before
anything else stands for itself.
-/

namespace Harvest.Regex

open Harvest.Text

inductive TemplatePart
  | char (c : Char)
  | number (n : Nat)
  | named (name : String)
  deriving DecidableEq, Repr

/-- The group that a name refers to: a number is written in digits, with or without a plus sign. -/
def TemplatePart.ofName (name : List Char) : TemplatePart :=
  let digits := match name with
    | '+' :: rest => rest
    | cs => cs
  let n := digits.foldl (fun acc c => acc * 10 + (c.toNat - 48)) 0
  if !digits.isEmpty && digits.all isAsciiDigit && n < 0x10000000000000000 then .number n
  else .named (String.ofList name)

/-- Whether a character goes on with a name that stands without braces. -/
def isTemplateNameChar (c : Char) : Bool := isAsciiAlphanumeric c || c == '_'

/-- What a dollar sign refers to, with the number of characters behind it that belong to the
reference; none where it stands for itself. -/
def reference? (cs : List Char) : Option (TemplatePart × Nat) :=
  match cs with
  | '{' :: rest =>
    let name := rest.takeWhile (· != '}')
    if name.length < rest.length then some (.ofName name, name.length + 2) else none
  | cs =>
    let name := cs.takeWhile isTemplateNameChar
    if name.isEmpty then none else some (.ofName name, name.length)

/-- The parts of a template; `skip` characters of a reference are still to be passed over. -/
def templateParts (skip : Nat) : List Char → List TemplatePart
  | [] => []
  | c :: cs =>
    match skip with
    | skip + 1 => templateParts skip cs
    | 0 =>
      if c = '$' then
        if cs.head? = some '$' then .char '$' :: templateParts 1 cs
        else
          match reference? cs with
          | some (part, length) => part :: templateParts length cs
          | none => .char '$' :: templateParts 0 cs
      else .char c :: templateParts 0 cs

def TemplatePart.text (names : List (String × Nat)) (m : Match) : TemplatePart → String
  | .char c => c.toString
  | .number n => ((m.groups[n]?).getD none).getD ""
  | .named name =>
    match names.lookup name with
    | some n => ((m.groups[n]?).getD none).getD ""
    | none => ""

/-- What stands outside the matches from a place on, and what each match becomes. -/
def weave (text : Array Char) (replaced : Match → String) (position : Nat) : List Match → String
  | [] => String.ofList (text.extract position text.size).toList
  | m :: ms =>
    String.ofList (text.extract position m.start).toList ++ replaced m ++
      weave text replaced m.stop ms

/-- The text with every match replaced by what the template stands for there. -/
def Expression.replaceAll (e : Expression) (text template : String) : String :=
  let parts := templateParts 0 template.toList
  let replaced (m : Match) := String.join (parts.map (TemplatePart.text e.names m))
  weave text.toList.toArray replaced 0 (e.allMatches text)

end Harvest.Regex
