import Harvest.Catalog.Mapping
import Harvest.Catalog.ResultList
import Harvest.Script.Session

/-!
Records in the value of an execution, and the links to further pages.
-/

namespace Harvest.Crawl

open Harvest.Catalog Harvest.Rule Harvest.Script Harvest.Text

abbrev Record := List (String × Value)

/-- The records of a value: a map is one, and a list holds those of its members. -/
def recordsOf (v : Value) : List Record :=
  match v with
  | .map entries => [entries]
  | .list items => items.attach.flatMap fun ⟨item, _⟩ => recordsOf item
  | _ => []

def tokenOf? (record : Record) : Option String := (record.lookup "details").bind Value.text?

/-- The link to the next page: of the first record that has one, or else the property. -/
def nextPage? (records : List Record) (bag : PropertyBag) : Option String :=
  let link := (records.findSome? (·.lookup "nextpage")).or (bag.get? "nextpage")
  ((link.bind Value.text?).map trim).filter (!·.isEmpty)

end Harvest.Crawl
