import Harvest.Markup.Subtree
import Harvest.SortedMap
import Harvest.Url.Basic

/-!
Values that rules extract from documents.

A value is absent, a text, a list, a map from names, an address or a node. The entries of a map are
kept in the order of their names.
-/

namespace Harvest.Rule

open Harvest.Markup

inductive Value
  | null
  | scalar (text : String)
  | list (items : List Value)
  | map (entries : List (String × Value))
  | url (address : Url)
  | node (node : NodeRef)
  deriving Inhabited

structure TypeMismatch where
  expected : String
  found : String
  deriving DecidableEq, Repr

def TypeMismatch.message (e : TypeMismatch) : String :=
  "Expected a " ++ e.expected ++ " value but found " ++ e.found

namespace Value

def isNull : Value → Bool
  | .null => true
  | _ => false

theorem isNull_eq_true_iff {v : Value} : v.isNull = true ↔ v = .null := by
  cases v <;> simp [isNull]

def typeName : Value → String
  | .null => "null"
  | .scalar _ => "scalar"
  | .list _ => "list"
  | .map _ => "map"
  | .url _ => "url"
  | .node _ => "node"

def ofList (items : List Value) : Value := .list (items.filter (!·.isNull))

/-- The map of a list of entries without the absent values; of entries with the same name the last
one counts. -/
def ofEntries (entries : List (String × Value)) : Value :=
  .map ((SortedMap.ofList entries).entries.filter (!·.2.isNull))

def asScalar : Value → Except TypeMismatch String
  | .scalar text => .ok text
  | v => .error ⟨"scalar", v.typeName⟩

def asList : Value → Except TypeMismatch (List Value)
  | .list items => .ok items
  | v => .error ⟨"list", v.typeName⟩

def asMap : Value → Except TypeMismatch (List (String × Value))
  | .map entries => .ok entries
  | v => .error ⟨"map", v.typeName⟩

def asUrl : Value → Except TypeMismatch Url
  | .url u => .ok u
  | v => .error ⟨"url", v.typeName⟩

def asNode : Value → Except TypeMismatch NodeRef
  | .node r => .ok r
  | v => .error ⟨"node", v.typeName⟩

/-- The text of a scalar, an address or a node; no other value has one. -/
def text? : Value → Option String
  | .scalar text => some text
  | .url u => some u.text
  | .node r => some r.textContent
  | _ => none

def get? (v : Value) (key : String) : Option Value :=
  match v with
  | .map entries => entries.lookup key
  | _ => none

/-- The members of a list; any other value stands for itself. -/
def items : Value → List Value
  | .list items => items
  | v => [v]

end Value

/-- The properties that the rules of a query share. -/
abbrev PropertyBag := SortedMap Value

namespace PropertyBag

/-- Sets a property; an absent value removes it. -/
def set (bag : PropertyBag) (name : String) (value : Value) : PropertyBag :=
  if value.isNull then bag.erase name else bag.insert name value

theorem get?_set (bag : PropertyBag) (name : String) (value : Value) :
    (bag.set name value).get? name = if value.isNull then none else some value := by
  unfold set
  split
  · exact SortedMap.get?_erase bag name
  · exact SortedMap.get?_insert bag name value

theorem get?_set_of_ne (bag : PropertyBag) {name other : String} (h : other ≠ name)
    (value : Value) : (bag.set name value).get? other = bag.get? other := by
  unfold set
  split
  · exact SortedMap.get?_erase_of_ne bag h
  · exact SortedMap.get?_insert_of_ne bag h value

/-- What an attribute says: behind a dollar sign stands the name of a property, which counts by its
text; any other text stands for itself. -/
def resolve? (bag : PropertyBag) (raw : String) : Option String :=
  match raw.toList with
  | '$' :: name => (bag.get? (String.ofList name)).bind Value.text?
  | _ => some raw

theorem resolve?_dollar (bag : PropertyBag) (name : String) :
    bag.resolve? ("$" ++ name) = (bag.get? name).bind Value.text? := by
  have htext : ("$" ++ name).toList = '$' :: name.toList := by simp
  rw [resolve?, htext]
  simp

theorem resolve?_plain (bag : PropertyBag) {raw : String} (h : ∀ name, raw ≠ "$" ++ name) :
    bag.resolve? raw = some raw := by
  unfold resolve?
  split
  · next name hraw =>
    refine absurd ?_ (h (String.ofList name))
    rw [← String.toList_inj, hraw]
    simp
  · rfl

end PropertyBag

end Harvest.Rule
