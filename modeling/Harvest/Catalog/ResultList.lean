import Harvest.Catalog.Entry

/-!
Lists of results, in which every record stands once.
-/

namespace Harvest.Catalog

/-- An entry from a source, with the token under which the source has its details, if there is one,
and whether those have been fetched. -/
structure Result where
  source : String
  entry : Entry
  token : Option String
  fetched : Bool
  deriving DecidableEq

/-- Whether two results are of the same record: of one source and with the same token, or with the
same entry where one of them has no token. -/
def Result.sameRecord (a b : Result) : Bool :=
  a.source == b.source &&
    match a.token, b.token with
    | some s, some t => s == t
    | _, _ => decide (a.entry = b.entry)

structure ResultList where
  items : List Result
  deriving DecidableEq

namespace ResultList

def empty : ResultList := ⟨[]⟩

def holds (l : ResultList) (r : Result) : Bool := l.items.any (·.sameRecord r)

/-- Puts a result at the end, unless the list holds that record, and tells whether it was added. -/
def offer (l : ResultList) (r : Result) : Bool × ResultList :=
  if l.holds r then (false, l) else (true, ⟨l.items ++ [r]⟩)

def push (l : ResultList) (r : Result) : ResultList := (l.offer r).2

def merge (l other : ResultList) : ResultList := other.items.foldl push l

def size (l : ResultList) : Nat := l.items.length

def isEmpty (l : ResultList) : Bool := l.items.isEmpty

end ResultList

end Harvest.Catalog
