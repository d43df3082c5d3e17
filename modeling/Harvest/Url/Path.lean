import Harvest.Url.Basic

/-!
Paths of addresses, built segment by segment.

Segments of one dot are dropped and segments of two dots drop the segment before them. In the path
of a file a drive letter that comes first is never dropped.
-/

namespace Harvest.Url

open Harvest.Text

/-- What decides how a path is read: whether the scheme is special, and whether it is that of
files. -/
structure PathRules where
  special : Bool
  file : Bool

def PathRules.ofScheme (scheme : String) : PathRules :=
  ⟨isSpecialScheme scheme, isFileScheme scheme⟩

def isDrive (cs : List Char) : Bool :=
  match cs with
  | [c, ':'] => isAsciiLetter c
  | _ => false

/-- A drive letter with a colon or a bar. -/
def isDriveLike (cs : List Char) : Bool :=
  match cs with
  | [c, d] => isAsciiLetter c && (d == ':' || d == '|')
  | _ => false

def endsSegment (c : Char) : Bool := c == '/' || c == '\\' || c == '?' || c == '#'

/-- Whether a text begins with a drive letter that is a whole segment. -/
def beginsWithDrive (cs : List Char) : Bool :=
  isDriveLike (cs.take 2) && (match cs.drop 2 with
    | [] => true
    | c :: _ => endsSegment c)

/-- The path up to its last slash, which is kept; a drive letter behind it is kept too. -/
def popSegment (rules : PathRules) (path : List Char) : List Char :=
  let last := (path.reverse.takeWhile (· != '/')).reverse
  if rules.file && isDrive last then path else path.take (path.length - last.length)

def shorten (rules : PathRules) (path : List Char) : List Char :=
  if rules.file && isDrive path then path else popSegment rules path

/-- Whether the slash that ends a path may go: it is not the first one, and none that stands behind
a drive letter. -/
def lastSlashIsRemovable (path : List Char) : Bool :=
  let before := path.dropLast
  let segment := (before.reverse.takeWhile (· != '/')).reverse
  segment.length < before.length && !(beginsWithDrive (segment ++ ['/']))

def closeWithSlash (path : List Char) : List Char :=
  if path.getLast? = some '/' then path else path ++ ['/']

/-- A path being read: what there is of it, where its last segment begins, and whether the host
stays. -/
structure PathState where
  path : List Char
  segment : Nat
  keepsHost : Bool

/-- Whether a segment is a dot, written as one or percent encoded. -/
def isSingleDot (cs : List Char) : Bool := [".", "%2e"].contains (lowerAscii (String.ofList cs))

def isDoubleDot (cs : List Char) : Bool :=
  ["..", "%2e%2e", "%2e.", ".%2e"].contains (lowerAscii (String.ofList cs))

/-- Finishes the last segment; `slash` says that a slash follows it, which the path ends with. -/
def PathState.finish (rules : PathRules) (slash : Bool) (s : PathState) : PathState :=
  let stop := if slash then s.path.length - 1 else s.path.length
  let segment := (s.path.take stop).drop s.segment
  if isDoubleDot segment then
    let path := s.path.take s.segment
    let path :=
      if path.getLast? = some '/' && lastSlashIsRemovable path then path.dropLast else path
    let path := shorten rules path
    { s with path := if slash then closeWithSlash path else path }
  else if isSingleDot segment then { s with path := closeWithSlash (s.path.take s.segment) }
  else if rules.file && s.segment == 1 && isDriveLike segment then
    let drive := segment.take 1 ++ [':'] ++ (if slash then ['/'] else [])
    { s with path := s.path.take s.segment ++ drive, keepsHost := false }
  else s

/-- Adds a character to the last segment; what would follow a drive letter directly begins a segment
of its own. -/
def PathState.push (rules : PathRules) (c : Char) (s : PathState) : PathState :=
  let s := if rules.file && isDrive (s.path.drop 1) then
    { s with path := s.path ++ ['/'], segment := s.segment + 1 } else s
  { s with path := s.path ++ encodeChar inPathSet c }

/-- Reads a path up to a query or fragment: the state at its end, and the rest of the text. -/
def readPath (rules : PathRules) (s : PathState) : List Char → PathState × List Char
  | [] => (s.finish rules false, [])
  | c :: cs =>
    if c = '/' || (c = '\\' && rules.special) then
      let s := ({ s with path := s.path ++ ['/'] }).finish rules true
      readPath rules { s with segment := s.path.length } cs
    else if c = '?' || c = '#' then (s.finish rules false, c :: cs)
    else readPath rules (s.push rules c) cs

/-- Goes on with a path: the whole path, whether the host stays, and the rest of the text. The path
of a file begins with one slash only. -/
def extendPath (rules : PathRules) (keepsHost : Bool) (path cs : List Char) :
    List Char × Bool × List Char :=
  let (s, rest) := readPath rules ⟨path, path.length, keepsHost⟩ cs
  let path := if rules.file then '/' :: s.path.dropWhile (· == '/') else s.path
  (path, s.keepsHost, rest)

/-- Reads a path from its beginning. The path of a special scheme begins with a slash, and so does
any other path that is not empty. With `slashed`, a slash stands before it already. -/
def startPath (rules : PathRules) (slashed : Bool) (cs : List Char) :
    List Char × Bool × List Char :=
  if rules.special then
    if slashed then extendPath rules true [] cs
    else
      match cs with
      | '/' :: rest => extendPath rules true ['/'] rest
      | '\\' :: rest => extendPath rules true ['/'] rest
      | cs => extendPath rules true ['/'] cs
  else
    match cs with
    | [] => extendPath rules true [] []
    | '?' :: _ => ([], true, cs)
    | '#' :: _ => ([], true, cs)
    | '/' :: _ => extendPath rules true [] cs
    | _ => extendPath rules true ['/'] cs

end Harvest.Url
