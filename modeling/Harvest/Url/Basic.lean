import Harvest.Text.Blank
import Harvest.Url.Host

/-!
Addresses: what they consist of and how they are written.

A scheme is special when its addresses always name a host and a path; `file` is one of those. An
address without an authority whose path does not begin with a slash has an opaque path.
-/

namespace Harvest

open Harvest.Text Harvest.Url

/-- Who is asked for, where, and at which port; a file has an authority without a host. -/
structure Url.Authority where
  username : String
  password : Option String
  host : Option Host
  port : Option Nat
  deriving DecidableEq, Repr

structure Url where
  scheme : String
  authority : Option Url.Authority
  path : String
  query : Option String
  fragment : Option String
  deriving DecidableEq, Repr

namespace Url

/-- The port that goes without saying. -/
def defaultPort? : String → Option Nat
  | "http" => some 80
  | "ws" => some 80
  | "https" => some 443
  | "wss" => some 443
  | "ftp" => some 21
  | _ => none

def isFileScheme (scheme : String) : Bool := scheme == "file"

def isSpecialScheme (scheme : String) : Bool :=
  (defaultPort? scheme).isSome || isFileScheme scheme

def Authority.text (a : Authority) : String :=
  let credentials := match a.password with
    | some password => a.username ++ ":" ++ password ++ "@"
    | none => if a.username.isEmpty then "" else a.username ++ "@"
  let host := (a.host.map Host.text).getD ""
  let port := match a.port with
    | some p => ":" ++ toString p
    | none => ""
  credentials ++ host ++ port

variable (u : Url)

/-- What stands before the query. A path that begins with two slashes is kept from reading as an
authority. -/
def textBeforeQuery : String :=
  match u.authority with
  | some a => u.scheme ++ "://" ++ a.text ++ u.path
  | none =>
    u.scheme ++ ":" ++ (if "//".toList.isPrefixOf u.path.toList then "/." else "") ++ u.path

def text : String :=
  u.textBeforeQuery ++ (match u.query with
    | some q => "?" ++ q
    | none => "") ++ (match u.fragment with
    | some f => "#" ++ f
    | none => "")

/-- Whether the path has no segments that another path could be relative to. -/
def isOpaque : Bool := u.authority.isNone && u.path.toList.head? != some '/'

/-- The scheme in lower case that a text begins with, and what stands behind its colon. -/
def splitScheme? (cs : List Char) : Option (String × List Char) :=
  let isSchemeChar (c : Char) : Bool :=
    isAsciiAlphanumeric c || c == '+' || c == '-' || c == '.'
  let name := cs.takeWhile isSchemeChar
  match name.head?.map isAsciiLetter, cs.drop name.length with
  | some true, ':' :: rest => some (lowerAscii (String.ofList name), rest)
  | _, _ => none

end Url

end Harvest
