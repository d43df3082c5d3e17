import Harvest.Text.Blank
import Harvest.Text.Search
import Harvest.Text.Utf8
import Harvest.Url.Percent

/-!
Form data in the shape of an address's query.
-/

namespace Harvest.Url

open Harvest.Text

/-- A name or a value of form data: a plus sign stands for a blank. -/
def formText (cs : List Char) : String :=
  let spaced := cs.map fun c => if c == '+' then ' ' else c
  String.ofList (textOfBytes (decodeBytes spaced))

def formPair (part : List Char) : String × String :=
  match splitAtFirst? ['='] part with
  | some (name, value) => (formText name, formText value)
  | none => (formText part, "")

/-- The pairs of form data, whose parts stand between ampersands. -/
def formPairs (text : String) : List (String × String) :=
  (runs (· == '&') text.toList).map formPair

end Harvest.Url
