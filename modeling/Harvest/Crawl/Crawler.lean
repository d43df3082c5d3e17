import Harvest.Catalog.Query
import Harvest.Crawl.Cookie
import Harvest.Crawl.Record
import Harvest.Crawl.Settings
import Harvest.Digest.Md5
import Harvest.Script.Execution

/-!
Crawlers: queries are answered from the pages of a source.

A listing script yields the records of one page after the other, or their tokens, which an export
script turns into records. A recoverable fault ends the query at hand; too many of them in a row, or
a fatal one, halt the crawler for good.
-/

namespace Harvest.Crawl

open Harvest.Catalog Harvest.Rule Harvest.Script

/-- What a crawler is made of: its settings, those of its executions, its scripts, and what decides
on entries, writes a query for the source and makes an entry of a record. -/
structure Source where
  settings : Settings
  engine : Script.Settings
  listing : Script
  exporting : Option Script
  details : Option Script
  filter : Entry → Bool
  converter : Query → String
  mapper : Record → Entry

namespace Source

def plain (settings : Settings) (engine : Script.Settings) (listing : Script) : Source :=
  ⟨settings, engine, listing, none, none, settings.filter, Query.formText, entryOf⟩

/-- The result that a record stands for; none if it is incomplete or not wanted. -/
def resultOf? (source : Source) (record : Record) : Option Result :=
  let entry := source.mapper record
  if entry.issue?.isNone && source.filter entry then
    some ⟨source.settings.source, entry, tokenOf? record, false⟩
  else none

end Source

/-- The faults in a row, the cookies, the results of earlier queries, and the world. -/
structure Crawler where
  failures : Nat
  cookies : List String
  cache : SortedMap ResultList
  world : World

def host : Listener := ⟨"host", false⟩

namespace Crawler

def initial : Crawler := ⟨0, [], .empty, .initial [host]⟩

variable (c : Crawler)

def isHalted : Bool := c.world.isHalted

def told : List String := c.world.token.told host

def halt (reason : String) : Crawler := { c with world := c.world.halt reason }

def flush : Crawler := { c with cache := .empty }

def poll (around : Surroundings) : Bool × Crawler :=
  let (halted, world) := c.world.poll around
  (halted, { c with world := world })

end Crawler

structure Progress where
  session : Session
  crawler : Crawler

abbrev Crawling := ExceptT Fault (StateM Progress)

def cacheKey (q : Query) : String := Digest.md5Text q.text

variable (source : Source) (around : Surroundings)

/-- Runs a script in the session of a crawl. A fault counts, and with too many in a row it becomes
fatal; a success starts the count anew. -/
def runScript (script : Script) : Crawling Value := fun c =>
  let (outcome, r) := execute source.engine around script ⟨c.session, c.crawler.world⟩
  match outcome with
  | .ok v => (.ok v, ⟨r.session, { c.crawler with failures := 0, world := r.world }⟩)
  | .error fault =>
    let failures := c.crawler.failures + 1
    let fault := if source.settings.maxFailures < failures then fault.escalate else fault
    (.error fault, ⟨r.session, { c.crawler with failures := failures, world := r.world }⟩)

def isHalted : Crawling Bool := do
  let c : Progress ← get
  let (halted, crawler) := c.crawler.poll around
  set { c with crawler := crawler }
  return halted

def setProperty (name : String) (value : Value) : Crawling Unit :=
  modify fun c => { c with session := c.session.setProperty name value }

/-- Takes the link to the next page out of the records or the properties, where it is not left. -/
def takeNextPage (records : List Record) : Crawling (Option String) := do
  let c : Progress ← get
  let bag := c.session.bag
  set { c with session := { c.session with bag := bag.erase "nextpage" } }
  return nextPage? records bag

inductive Harvesting
  | records
  | tokens
  deriving DecidableEq, Repr

def harvested? (harvesting : Harvesting) (record : Record) : Option Result :=
  match harvesting with
  | .records => source.resultOf? record
  | .tokens =>
    (tokenOf? record).map fun token => ⟨source.settings.source, .empty, some token, false⟩

def pushAll (l : ResultList) (results : List Result) : ResultList := results.foldl .push l

def isEnough (l : ResultList) : Bool := source.settings.maxResults.any (· ≤ l.size)

/-- Reads listing pages, with so many more allowed after the first one. -/
def pages (harvesting : Harvesting) (results : ResultList) (more : Nat) : Crawling ResultList := do
  if ← isHalted around then return results
  let v ← runScript source around source.listing
  let records := recordsOf v
  let results := pushAll results (records.filterMap (harvested? source harvesting))
  let next ← takeNextPage records
  if harvesting = .records && isEnough source results then return results
  match next with
  | none => return results
  | some address =>
    match more with
    | 0 => return results
    | more + 1 => do
      setProperty "url" (.scalar address)
      pages harvesting results more

def listing (harvesting : Harvesting) : Crawling ResultList :=
  pages source around harvesting .empty (source.settings.maxPages - 1)

/-- Pushes the results of records until as many have been found as are wanted. -/
def pushUntilEnough (results : ResultList) : List Record → ResultList
  | [] => results
  | record :: rest =>
    let results := pushAll results (source.resultOf? record).toList
    if isEnough source results then results else pushUntilEnough results rest

/-- Reads the tokens from the listing pages, then exports the records in one execution. -/
def listingThenExport : Crawling ResultList := do
  match source.exporting with
  | none =>
    throw (.fatal ("two-step wrapper '" ++ source.settings.source ++ "' has no export script"))
  | some script =>
    let found ← listing source around .tokens
    let tokens := found.items.filterMap (·.token)
    if tokens.isEmpty then return .empty
    setProperty "ids" (.list (tokens.map .scalar))
    let v ← runScript source around script
    return pushUntilEnough source .empty (recordsOf v)

def sessionFor (q : Query) : Session :=
  let s := Session.initial.setProperty "url" (.scalar source.settings.start)
  let s := s.setProperty "query" (.scalar (source.converter q))
  let s := match source.settings.maxResults with
    | some most => s.setProperty "maxResults" (.scalar (toString most))
    | none => s
  match source.settings.years with
  | some years => s.setProperty "yearRange" (.scalar years.text)
  | none => s

abbrev Crawler.Action := ExceptT Fault (StateM Crawler)

/-- Does work in a session of its own, whose cookies the crawler keeps in any case. -/
def inSession {α : Type} (session : Session) (work : Crawling α) : Crawler.Action α :=
  fun crawler =>
  let (outcome, c) := work ⟨session, crawler⟩
  (outcome, { c.crawler with cookies := keepCookies c.crawler.cookies c.session.cookies })

def crawl (q : Query) : Crawler.Action ResultList :=
  match source.settings.kind with
  | .paged => inSession (sessionFor source q) (listing source around .records)
  | .twoStep => inSession (sessionFor source q) (listingThenExport source around)

/-- Answers conjunctions one after the other, until the crawler is halted. -/
def crawlEach (results : ResultList) : List Query → Crawler.Action ResultList
  | [] => return results
  | q :: qs => do
    let crawler : Crawler ← get
    let (halted, crawler) := crawler.poll around
    set crawler
    if halted then return results
    let more ← crawl source around q
    crawlEach (results.merge more) qs

/-- Answers a query as the settings say, as a whole or conjunction by conjunction. -/
def process (q : Query) : Crawler.Action ResultList :=
  match source.settings.mode with
  | .wholeQuery => crawl source around q
  | .conjunctions =>
    crawlEach source around .empty (q.conjunctions.take source.settings.maxConjunctions)

/-- The results of a query, none where a fault ended it; a fatal one halts the crawler. -/
def retrieve (q : Query) (crawler : Crawler) : Option ResultList × Crawler :=
  match process source around q crawler with
  | (.ok results, crawler) => (some results, crawler)
  | (.error fault, crawler) =>
    (none, if fault.isFatal then crawler.halt fault.reason else crawler)

/-- The results of a query, from the cache if it is used and has them. A query that a fault ended
has none and is not put into the cache. -/
def ask (q : Query) (useCache : Bool) (crawler : Crawler) : ResultList × Crawler :=
  let (halted, crawler) := crawler.poll around
  if halted then (.empty, crawler)
  else
    match if useCache then crawler.cache.get? (cacheKey q) else none with
    | some results => (results, crawler)
    | none =>
      match retrieve source around q crawler with
      | (none, crawler) => (.empty, crawler)
      | (some results, crawler) =>
        (results,
          if useCache then
            { crawler with cache := crawler.cache.insert (cacheKey q) results }
          else crawler)

end Harvest.Crawl
