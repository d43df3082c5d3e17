import Harvest.Crawl.Crawler

/-!
Details: results are completed from pages of their own.
-/

namespace Harvest.Crawl

open Harvest.Catalog Harvest.Rule Harvest.Script Harvest.Text

/-- The address of the details under a token: the token if it is an address, or else the template
with the token in it, or else relative to the start. -/
def detailAddress? (settings : Settings) (token : String) : Option Url :=
  match Url.ofText token with
  | .ok u => some u
  | .error _ =>
    match settings.detailTemplate with
    | some template =>
      let filled := replaceText "\x7btoken\x7d".toList token.toList template.toList
      (Url.ofText (String.ofList filled)).toOption
    | none =>
      match Url.ofText settings.start with
      | .ok start => (start.join token).toOption
      | .error _ => none

variable (source : Source) (around : Surroundings)

def detailSession (crawler : Crawler) (token : String) (address : Url) : Session :=
  let s := if source.settings.reuseCookies then Session.initial.withCookies crawler.cookies
    else .initial
  (s.setProperty "url" (.url address)).setProperty "details" (.scalar token)

def complete (r : Result) (record : Record) : Result :=
  { r with entry := r.entry.merge (source.mapper record), fetched := true }

/-- A result after its turn, how many have been completed by then, and whether the work goes on. -/
structure DetailTurn where
  result : Result
  completed : Nat
  goesOn : Bool

/-- Completes one result, in an execution of its own. A result whose execution faults or yields no
record stays as it is and does not count. -/
def fetchDetail (script : Script) (completed : Nat) (r : Result) (token : String) (address : Url)
    (crawler : Crawler) : DetailTurn × Crawler :=
  match runScript source around script ⟨detailSession source crawler token address, crawler⟩ with
  | (.ok v, c) =>
    match recordsOf v with
    | [] => (⟨r, completed, true⟩, c.crawler)
    | record :: _ => (⟨complete source r record, completed + 1, true⟩, c.crawler)
  | (.error fault, c) =>
    if fault.isFatal then (⟨r, completed, false⟩, c.crawler.halt fault.reason)
    else (⟨r, completed, true⟩, c.crawler)

/-- Completes the results that have a token and no details yet, until the crawler is halted, and
counts them on from a number. -/
def fetchEach (script : Script) (completed : Nat) (crawler : Crawler) :
    List Result → (Nat × List Result) × Crawler
  | [] => ((completed, []), crawler)
  | r :: rest =>
    let next (turn : DetailTurn) (crawler : Crawler) : (Nat × List Result) × Crawler :=
      let ((completed, rest), crawler) := fetchEach script turn.completed crawler rest
      ((completed, turn.result :: rest), crawler)
    if r.fetched then next ⟨r, completed, true⟩ crawler
    else
      let (halted, crawler) := crawler.poll around
      if halted then ((completed, r :: rest), crawler)
      else
        match r.token.bind fun token =>
          (detailAddress? source.settings token).map (token, ·) with
        | none => next ⟨r, completed, true⟩ crawler
        | some (token, address) =>
          let (turn, crawler) := fetchDetail source around script completed r token address crawler
          if turn.goesOn then next turn crawler
          else ((turn.completed, turn.result :: rest), crawler)

def fetchDetails (results : ResultList) (crawler : Crawler) : (Nat × ResultList) × Crawler :=
  match source.details with
  | none => ((0, results), crawler)
  | some script =>
    let ((completed, items), crawler) := fetchEach source around script 0 crawler results.items
    ((completed, ⟨items⟩), crawler)

end Harvest.Crawl
