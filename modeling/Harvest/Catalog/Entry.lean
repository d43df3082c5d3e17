import Harvest.SortedMap
import Harvest.Text.Blank

/-!
Catalogue entries: what is known of a publication, and whether it is enough.
-/

namespace Harvest.Catalog

open Harvest.Text

structure Entry where
  title : Option String
  authors : List String
  year : Option Int
  fields : SortedMap String
  deriving DecidableEq

namespace Entry

def empty : Entry := ⟨none, [], none, .empty⟩

def lacksTitle (e : Entry) : Bool :=
  match e.title with
  | some title => isBlankText title
  | none => true

/-- The entry with what it lacks taken from another one. -/
def merge (e other : Entry) : Entry where
  title := if e.lacksTitle then other.title else e.title
  authors := if e.authors.isEmpty then other.authors else e.authors
  year := e.year.or other.year
  fields := e.fields.fillFrom other.fields

end Entry

inductive Issue
  | noAuthors
  | emptyTitle
  | noYear
  deriving DecidableEq, Repr

def Issue.message : Issue → String
  | .noAuthors => "document has no author"
  | .emptyTitle => "document has an empty title"
  | .noYear => "document has no publication year"

/-- The first thing that an entry lacks, if it lacks any: an author who is not blank, a title, a
year. -/
def Entry.issue? (e : Entry) : Option Issue :=
  if e.authors.all isBlankText then some .noAuthors
  else if e.lacksTitle then some .emptyTitle
  else if e.year.isNone then some .noYear
  else none

/-- A range of years, both ends included. -/
structure YearRange where
  first : Int
  last : Int
  deriving DecidableEq, Repr

namespace YearRange

def contains (r : YearRange) (year : Int) : Bool := r.first ≤ year && year ≤ r.last

def text (r : YearRange) : String := toString r.first ++ "-" ++ toString r.last

end YearRange

/-! Which entries are wanted. -/

namespace Filter

def everything (_ : Entry) : Bool := true

/-- An entry without a year is not within a range of years. -/
def within (range : YearRange) (e : Entry) : Bool := e.year.any range.contains

end Filter

end Harvest.Catalog
