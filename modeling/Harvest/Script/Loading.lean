import Harvest.Script.Command

/-!
Scripts from XML.
-/

namespace Harvest.Script

open Harvest.Text

def requiredAttribute (e : Xml.Element) (name : String) : Except LoadError String :=
  match e.attribute? name with
  | some value => .ok value
  | none => .error (.missingAttribute e.tag name)

/-- The number that a text of digits stands for, with a plus sign before it or not, if it is below
`2 ^ 32`. -/
def pageNumber? (raw : String) : Option Nat :=
  let digits := match trimChars raw.toList with
    | '+' :: rest => rest
    | cs => cs
  if digits.isEmpty || !digits.all isAsciiDigit then none
  else (some (digits.foldl (fun acc c => acc * 10 + (c.toNat - 48)) 0)).filter (· < 0x100000000)

def pageAttribute (e : Xml.Element) (name : String) : Except LoadError (Option Nat) :=
  match e.attribute? name with
  | none => .ok none
  | some raw =>
    match pageNumber? raw with
    | some page => .ok (some page)
    | none => .error (.invalidAttribute "fetch" name ("'" ++ raw ++ "' is not a page number"))

def methodAttribute (e : Xml.Element) : Except LoadError Fetch.Method :=
  match e.attribute? "method" with
  | none => .ok .get
  | some raw =>
    match Fetch.Method.ofName? raw with
    | some method => .ok method
    | none => .error (.invalidAttribute "fetch" "method" ("'" ++ raw ++ "'"))

def addParam (c : FetchCommand) (e : Xml.Element) : Except LoadError FetchCommand := do
  let name ← requiredAttribute e "name"
  let param : Param := ⟨name, (e.attribute? "value").getD ""⟩
  match e.tag with
  | "param" => return { c with params := c.params ++ [param] }
  | "form" => return { c with forms := c.forms ++ [param] }
  | tag => throw (.unknownCommand ("fetch/" ++ tag))

def FetchCommand.ofElement (e : Xml.Element) : Except LoadError FetchCommand := do
  let firstPage ← pageAttribute e "minpage"
  let lastPage ← pageAttribute e "maxpage"
  let method ← methodAttribute e
  let bare : FetchCommand :=
    ⟨firstPage.getD 1, lastPage, method, e.attribute? "url", e.attribute? "encoding", [], []⟩
  e.children.foldlM addParam bare

def substitutionOf (e : Xml.Element) : Except LoadError Substitution :=
  if e.tag != "replace" then .error (.unknownCommand ("clean/" ++ e.tag))
  else do
    let pattern ← requiredAttribute e "pattern"
    match Substitution.ofText? pattern ((e.attribute? "replacewith").getD "") with
    | some s => return s
    | none => throw (.unreadablePattern pattern)

def Command.ofElement (e : Xml.Element) : Except LoadError Command :=
  match CleanMode.ofCommand? e.tag with
  | some mode => return .clean mode (← e.children.mapM substitutionOf)
  | none =>
    match e.tag with
    | "document" => return .document (← requiredAttribute e "name")
    | "load" => return .load (← requiredAttribute e "file")
    | "usecookies" => .ok .useCookies
    | "fetch" => return .fetch (← FetchCommand.ofElement e)
    | "structured" => .ok .structured
    | "parse" => return .parse (← Rule.ofElements e.children)
    | "save" => .ok .save
    | tag => .error (.unknownCommand tag)

def ofText (source : String) : Except LoadError Script := do
  let root ← (Xml.Element.parse source).mapError .element
  if root.tag != "script" then throw .noScript
  return ⟨← root.children.mapM Command.ofElement⟩

end Harvest.Script
