import Harvest.Fetch.Error
import Harvest.Fetch.Settings
import Harvest.Text.Letter
import Harvest.Url.Parser

/-!
What stands against building a client, and against sending a request with it.
-/

namespace Harvest.Fetch

open Harvest.Text

def isHeaderNameChar (c : Char) : Bool :=
  isAsciiAlphanumeric c || "!#$%&'*+-.^_\x60|~".toList.contains c

def isHeaderName (name : String) : Bool :=
  !name.isEmpty && name.toList.all isHeaderNameChar

/-- Whether a text may be the value of a header: no control character but the tab. -/
def isHeaderValue (value : String) : Bool :=
  value.toList.all fun c => c == '\t' || (32 ≤ c.toNat && c.toNat ≠ 127)

inductive BuildProblem
  | error (e : Error)
  | timeoutTooLong
  deriving DecidableEq, Repr

def headerProblem? (header : String × String) : Option Error :=
  let (name, value) := header
  if !isHeaderName name then
    some (.client ("header '" ++ name ++ "': invalid HTTP header name"))
  else if !isHeaderValue value then
    some (.client ("header value for '" ++ lowerAscii name ++ "': failed to parse header value"))
  else none

def proxyProblem? (p : Proxy) : Option Error :=
  match Url.ofText p.address with
  | .ok _ => none
  | .error _ => some (.client ("proxy " ++ p.address ++ ": builder error"))

/-- The first thing that stands against a client: a header, the timeout, the proxy or the name of
the user agent. -/
def Settings.problem? (s : Settings) : Option BuildProblem :=
  match s.headers.entries.findSome? headerProblem? with
  | some e => some (.error e)
  | none =>
    if s.timeoutNanos?.isNone then some .timeoutTooLong
    else
      match s.proxy.bind proxyProblem? with
      | some e => some (.error e)
      | none =>
        if isHeaderValue s.userAgent then none else some (.error (.client "builder error"))

def addressProblem? (address : String) : Option Error :=
  match Url.ofText address with
  | .ok _ => none
  | .error e => some (.invalidAddress address e.message)

end Harvest.Fetch
