import Harvest.Catalog.Entry
import Harvest.Rule.Value
import Harvest.Text.Utf8

/-!
Catalogue entries from what rules have extracted.
-/

namespace Harvest.Catalog

open Harvest.Rule Harvest.Text

/-- The names of a value, trimmed, the blank ones left out. -/
def authorsOf (v : Value) : List String :=
  match v with
  | .list items => items.attach.flatMap fun ⟨item, _⟩ => authorsOf item
  | v => ((v.text?.map trim).filter (!·.isEmpty)).toList

def isDigitByte (b : UInt8) : Bool := 48 ≤ b && b ≤ 57

/-- Whether the bytes begin with four digits and do not go on with a fifth one. -/
def beginsYear (bytes : List UInt8) : Bool :=
  let window := bytes.take 4
  window.length == 4 && window.all isDigitByte && !bytes[4]?.any isDigitByte

/-- Where the first four digits in a row begin that have no digit on either side. The bytes begin at
`place`, behind a digit or not. -/
def yearPlace? (behindDigit : Bool) (place : Nat) (bytes : List UInt8) : Option Nat :=
  match bytes with
  | [] => none
  | b :: rest =>
    if beginsYear (b :: rest) && !behindDigit then some place
    else yearPlace? (isDigitByte b) (place + 1) rest

def numberOf (digits : List Char) : Nat := digits.foldl (fun acc c => acc * 10 + (c.toNat - 48)) 0

/-- The year that a text names: its first run of exactly four digits, which is looked for among the
bytes of the text and cut out of it. -/
def yearOf? (text : String) : Option Int := do
  let place ← yearPlace? false 0 (bytesOf text.toList)
  let digits ← slice? place 4 text.toList
  return Int.ofNat (numberOf digits)

def mapField (e : Entry) (name : String) (v : Value) : Entry :=
  match name with
  | "title" => { e with title := (v.text?.map trim).filter (!·.isEmpty) }
  | "authors" => { e with authors := e.authors ++ authorsOf v }
  | "author" => { e with authors := e.authors ++ authorsOf v }
  | "year" => { e with year := v.text?.bind yearOf? }
  | "nextpage" => e
  | "details" => e
  | _ =>
    match v with
    | .list items =>
      let text := join "; " (items.filterMap (·.text?))
      { e with fields := e.fields.insert name text }
    | v =>
      match v.text? with
      | some text => { e with fields := e.fields.insert name text }
      | none => e

/-- The entry of a record, whose values are taken in the order of their names. -/
def entryOf (record : List (String × Value)) : Entry :=
  record.foldl (fun e field => mapField e field.1 field.2) .empty

end Harvest.Catalog
