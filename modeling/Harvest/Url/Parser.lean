import Harvest.Text.Search
import Harvest.Url.Path

/-!
Addresses from text, alone or relative to another address.
-/

namespace Harvest.Url

open Harvest.Text

/-- What of a text counts: control characters and blanks around it, and tabs and line ends anywhere,
do not. -/
def relevant (cs : List Char) : List Char :=
  let outer (c : Char) : Bool := c.toNat ≤ 32
  ((cs.dropWhile outer).reverse.dropWhile outer).reverse.filter fun c =>
    c != '\t' && c != '\n' && c != '\r'

def fragmentText (cs : List Char) : String := String.ofList (encode inFragmentSet cs)

/-- The query and the fragment of an address whose remaining text begins with the sign of one of
them, or is empty. -/
def withQuery (u : Url) (cs : List Char) : Url :=
  let set := if isSpecialScheme u.scheme then inSpecialQuerySet else inQuerySet
  let (query, rest) := match cs with
    | '?' :: rest =>
      let q := rest.takeWhile (· != '#')
      (some (String.ofList (encode set q)), rest.drop q.length)
    | cs => (none, cs)
  let fragment := match rest with
    | '#' :: rest => some (fragmentText rest)
    | _ => none
  { u with query := query, fragment := fragment }

def endsAuthority (special : Bool) (c : Char) : Bool :=
  c == '/' || c == '?' || c == '#' || (special && c == '\\')

def readCredentials (cs : List Char) : String × Option String :=
  let text (cs : List Char) : String := String.ofList (encode inUserinfoSet cs)
  let name := cs.takeWhile (· != ':')
  match cs.drop name.length with
  | _ :: c :: rest => (text name, some (text (c :: rest)))
  | _ => (text name, none)

/-- The host text of an authority, in which colons count only within brackets, and the rest. -/
def splitHost (special bracket : Bool) : List Char → List Char × List Char
  | [] => ([], [])
  | c :: cs =>
    if (c == ':' && !bracket) || endsAuthority special c then ([], c :: cs)
    else
      let bracket := if c == '[' then true else if c == ']' then false else bracket
      let (host, rest) := splitHost special bracket cs
      (c :: host, rest)

/-- A port behind its colon: none without digits, or where it goes without saying. -/
def readPort (scheme : String) (cs : List Char) : Except Error (Option Nat × List Char) :=
  let digits := cs.takeWhile isAsciiDigit
  let rest := cs.drop digits.length
  let n := digits.foldl (fun acc c => acc * 10 + (c.toNat - 48)) 0
  if 65535 < n then .error .port
  else
    match rest with
    | c :: _ =>
      if endsSegment c then .ok (port digits n, rest) else .error .port
    | [] => .ok (port digits n, rest)
where
  port (digits : List Char) (n : Nat) : Option Nat :=
    if digits.isEmpty || defaultPort? scheme == some n then none else some n

/-- The credentials before the last at sign of an authority, and what stands behind it. -/
def splitCredentials (special : Bool) (cs : List Char) :
    Except Error (Option (String × Option String) × List Char) :=
  let whole := cs.takeWhile fun c => !endsAuthority special c
  match splitAtLast? '@' whole with
  | none => .ok (none, cs)
  | some (before, _) =>
    let rest := cs.drop (before.length + 1)
    if before.isEmpty then
      match rest with
      | c :: _ => if endsAuthority special c then .error .emptyHost else .ok (none, rest)
      | [] => .ok (none, rest)
    else .ok (some (readCredentials before), rest)

def readAuthority (scheme : String) (cs : List Char) :
    Except Error (Authority × List Char) := do
  let special := isSpecialScheme scheme
  let (credentials, cs) ← splitCredentials special cs
  let (hostText, rest) := splitHost special false cs
  if special && hostText.isEmpty then throw .emptyHost
  let host ← if special then Host.parse hostText else Host.parseOpaque hostText
  let host? := if host = .domain "" then none else some host
  if host?.isNone && rest.head? = some ':' then throw .emptyHost
  let (port, rest) ← match rest with
    | ':' :: rest => readPort scheme rest
    | rest => pure (none, rest)
  let (username, password) := credentials.getD ("", none)
  if host?.isNone && !(username.isEmpty && password.isNone) then throw .emptyHost
  return (⟨username, password, host?, port⟩, rest)

def afterSlashes (scheme : String) (cs : List Char) : Except Error Url := do
  let (authority, rest) ← readAuthority scheme cs
  let (path, _, rest) := startPath (.ofScheme scheme) false rest
  return withQuery ⟨scheme, some authority, String.ofList path, none, none⟩ rest

/-- An address that goes on with the path of another one. -/
def extend (base : Url) (path cs : List Char) : Url :=
  let (path, _, rest) := extendPath (.ofScheme base.scheme) true path cs
  withQuery { base with path := String.ofList path } rest

/-- What holds for every base: without more text only the fragment goes, a query replaces the query,
and a fragment the fragment. -/
def fromBase? (base : Url) (cs : List Char) : Option Url :=
  match cs with
  | [] => some { base with fragment := none }
  | '?' :: _ => some (withQuery base cs)
  | '#' :: rest => some { base with fragment := some (fragmentText rest) }
  | _ => none

/-- An address relative to one that is no file. -/
def relativeTo (base : Url) (cs : List Char) : Except Error Url :=
  match fromBase? base cs with
  | some u => .ok u
  | none =>
    let isSlash (c : Char) : Bool := c == '/' || c == '\\'
    let slashes := cs.takeWhile isSlash
    if 2 ≤ slashes.length then
      let behind := if "//".toList.isPrefixOf cs then cs.drop 2 else cs.drop slashes.length
      afterSlashes base.scheme behind
    else if slashes.length = 1 then .ok (extend base ['/'] (cs.drop 1))
    else
      let path := popSegment (.ofScheme base.scheme) base.path.toList
      .ok (extend base (if path.isEmpty then ['/'] else path) cs)

def fileWithHost (cs : List Char) : Except Error Url := do
  let rules := PathRules.ofScheme "file"
  let hostText := cs.takeWhile fun c => !endsSegment c
  let rest := cs.drop hostText.length
  if isDriveLike hostText then
    let (path, _, rest) := extendPath rules false ['/'] cs
    return withQuery (file none path) rest
  let host ← if hostText.isEmpty then pure none else
    match ← Host.parse hostText with
    | .domain "localhost" => pure none
    | host => pure (some host)
  let (path, keepsHost, rest) := startPath rules host.isNone rest
  return withQuery (file (if keepsHost then host else none) path) rest
where
  file (host : Option Host) (path : List Char) : Url :=
    ⟨"file", some ⟨"", none, host, none⟩, String.ofList path, none, none⟩

/-- An address of a file behind its scheme, relative to another file if there is one. -/
def parseFile (base : Option Url) (cs : List Char) : Except Error Url :=
  let rules := PathRules.ofScheme "file"
  let bare : Url := ⟨"file", some ⟨"", none, none, none⟩, "", none, none⟩
  let isSlash (c : Option Char) : Bool := c == some '/' || c == some '\\'
  let finish (u : Url) (path cs : List Char) : Url :=
    let (path, _, rest) := extendPath rules false path cs
    withQuery { u with path := String.ofList path } rest
  if isSlash cs.head? then
    if isSlash (cs.drop 1).head? then fileWithHost (cs.drop 2)
    else if beginsWithDrive (cs.drop 1) then .ok (finish bare [] cs)
    else
      match base with
      | none => .ok (finish bare [] cs)
      | some base =>
        let first := (base.path.toList.drop 1).takeWhile (· != '/')
        if isDrive first then .ok (finish bare ('/' :: first) cs)
        else .ok (finish { bare with authority := base.authority } [] cs)
  else
    match base with
    | none => .ok (finish bare ['/'] cs)
    | some base =>
      match fromBase? base cs with
      | some u => .ok u
      | none =>
        if beginsWithDrive cs then .ok (finish bare ['/'] cs)
        else .ok (finish base (shorten rules base.path.toList) cs)

def parsePlain (scheme : String) (cs : List Char) : Except Error Url :=
  match cs with
  | '/' :: '/' :: rest => afterSlashes scheme rest
  | '/' :: rest =>
    let (path, _, rest) := extendPath (.ofScheme scheme) false ['/'] rest
    .ok (withQuery ⟨scheme, none, String.ofList path, none, none⟩ rest)
  | cs =>
    let path := cs.takeWhile fun c => c != '?' && c != '#'
    let text := String.ofList (encode isControlOrForeign path)
    .ok (withQuery ⟨scheme, none, text, none, none⟩ (cs.drop path.length))

/-- An address with a scheme of its own. A special scheme that is also the base's makes the address
relative unless two slashes follow. -/
def parseWithScheme (base : Option Url) (scheme : String) (cs : List Char) : Except Error Url :=
  let sameScheme := base.filter (·.scheme == scheme)
  if isFileScheme scheme then parseFile sameScheme cs
  else if isSpecialScheme scheme then
    let slashes := cs.takeWhile fun c => c == '/' || c == '\\'
    match sameScheme with
    | some base =>
      if slashes.length < 2 then relativeTo base cs
      else afterSlashes scheme (cs.drop slashes.length)
    | none => afterSlashes scheme (cs.drop slashes.length)
  else parsePlain scheme cs

/-- The address that a text stands for, relative to another one if there is one. -/
def parse (base : Option Url) (source : String) : Except Error Url :=
  let cs := relevant source.toList
  match splitScheme? cs with
  | some (scheme, rest) => parseWithScheme base scheme rest
  | none =>
    match base with
    | none => .error .relativeWithoutBase
    | some base =>
      match cs with
      | '#' :: rest => .ok { base with fragment := some (fragmentText rest) }
      | cs =>
        if base.isOpaque then .error .relativeToOpaque
        else if isFileScheme base.scheme then parseFile (some base) cs
        else relativeTo base cs

def ofText (source : String) : Except Error Url := parse none source

def join (base : Url) (source : String) : Except Error Url := parse (some base) source

end Harvest.Url
