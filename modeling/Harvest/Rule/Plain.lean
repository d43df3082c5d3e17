import Harvest.Json.Basic
import Harvest.Rule.Value

/-!
Extracted values as JSON: addresses by their texts, nodes by their markup.
-/

namespace Harvest.Rule.Value

mutual

def toJson (v : Value) : Json :=
  match v with
  | .null => .null
  | .scalar text => .string text
  | .list items => .array (toJsons items)
  | .map entries => .object (fieldsToJson entries)
  | .url u => .string u.text
  | .node r => .string r.toMarkup

def toJsons (vs : List Value) : List Json :=
  match vs with
  | [] => []
  | v :: vs => v.toJson :: toJsons vs

def fieldsToJson (entries : List (String × Value)) : List (String × Json) :=
  match entries with
  | [] => []
  | (key, v) :: entries => (key, v.toJson) :: fieldsToJson entries

end

end Harvest.Rule.Value
