import Harvest.Catalog.Entry
import Harvest.Json.Decode

/-!
Settings of a crawler: its source, how queries are put to it, and the limits.
-/

namespace Harvest.Crawl

open Harvest.Catalog

/-- Whether a query is put to the source as a whole or conjunction by conjunction. -/
inductive Mode
  | wholeQuery
  | conjunctions
  deriving DecidableEq, Repr

/-- Whether the listing pages hold the records, or only the tokens under which they are exported. -/
inductive Kind
  | paged
  | twoStep
  deriving DecidableEq, Repr

def Mode.names : List (String × Mode) :=
  [("whole_query", .wholeQuery), ("conjunctions", .conjunctions)]

def Kind.names : List (String × Kind) := [("paged", .paged), ("two_step", .twoStep)]

structure Settings where
  source : String
  start : String
  mode : Mode
  kind : Kind
  maxPages : Nat
  maxConjunctions : Nat
  maxFailures : Nat
  maxResults : Option Nat
  years : Option YearRange
  detailTemplate : Option String
  reuseCookies : Bool
  deriving DecidableEq, Repr

open Json

def yearRange? (j : Json) : Option YearRange := do
  let fields ← record? ["from", "to"] j
  let year := intWithin? (-0x80000000) 0x7FFFFFFF
  let first ← required? fields "from" year
  let last ← required? fields "to" year
  return ⟨first, last⟩

namespace Settings

def fieldNames : List String :=
  ["source_id", "start_url", "mode", "kind", "max_fetch_pages", "max_conjunctions", "max_failures",
    "max_results", "year_range", "detail_url_template", "reuse_cookies"]

def ofJson? (j : Json) : Option Settings := do
  let fields ← record? fieldNames j
  let source ← required? fields "source_id" string?
  let start ← required? fields "start_url" string?
  let mode ← optional? fields "mode" .wholeQuery (named? Mode.names)
  let kind ← optional? fields "kind" .paged (named? Kind.names)
  let maxPages ← optional? fields "max_fetch_pages" 5 (natBits? 32)
  let maxConjunctions ← optional? fields "max_conjunctions" 8 (natBits? 64)
  let maxFailures ← optional? fields "max_failures" 3 (natBits? 32)
  let maxResults ← optional? fields "max_results" none (nullable? (natBits? 64))
  let years ← optional? fields "year_range" none (nullable? yearRange?)
  let detailTemplate ← optional? fields "detail_url_template" none (nullable? string?)
  let reuseCookies ← optional? fields "reuse_cookies" true bool?
  return ⟨source, start, mode, kind, maxPages, maxConjunctions, maxFailures, maxResults, years,
    detailTemplate, reuseCookies⟩

def filter (s : Settings) : Entry → Bool :=
  match s.years with
  | some years => Filter.within years
  | none => Filter.everything

end Settings

end Harvest.Crawl
