import Harvest.Json.Decode
import Harvest.SortedMap

/-!
Settings of the client that fetches pages.
-/

namespace Harvest.Fetch

structure Proxy where
  host : String
  port : Nat
  deriving DecidableEq, Repr

def Proxy.address (p : Proxy) : String := "http://" ++ p.host ++ ":" ++ toString p.port

open Json in
def Proxy.ofJson? (j : Json) : Option Proxy := do
  let fields ← record? ["host", "port"] j
  let host ← required? fields "host" string?
  let port ← required? fields "port" (natBits? 16)
  return ⟨host, port⟩

/-- The settings of a client; the timeout is in seconds. -/
structure Settings where
  timeout : Float
  userAgent : String
  maxRedirects : Nat
  proxy : Option Proxy
  headers : SortedMap String

namespace Settings

def default : Settings := ⟨30, "wrapcrawl/0.1.0", 10, none, .empty⟩

open Json in
def ofJson? (j : Json) : Option Settings := do
  let fields ← record? ["timeout_seconds", "user_agent", "max_redirects", "proxy", "headers"] j
  let timeout ← optional? fields "timeout_seconds" default.timeout float?
  let userAgent ← optional? fields "user_agent" default.userAgent string?
  let maxRedirects ← optional? fields "max_redirects" default.maxRedirects (natBits? 64)
  let proxy ← optional? fields "proxy" default.proxy (nullable? Proxy.ofJson?)
  let headers ← optional? fields "headers" [] texts?
  return ⟨timeout, userAgent, maxRedirects, proxy, .ofList headers⟩

/-- A quotient rounded to the nearest whole number, a half to the even neighbour. -/
def roundedQuotient (num den : Nat) : Nat :=
  let whole := num / den
  let rest := num % den
  if 2 * rest < den then whole
  else if den < 2 * rest then whole + 1
  else whole + whole % 2

/-- The timeout in nanoseconds. A negative one counts as zero; there is none for `2 ^ 64` seconds or
more. -/
def timeoutNanos? (s : Settings) : Option Nat :=
  match Binary.ofFloat? s.timeout with
  | none => none
  | some b =>
    let num := b.mantissa * Nat.pow 2 b.exponent.toNat
    let den := Nat.pow 2 (-b.exponent).toNat
    if b.negative then some 0
    else if 0x10000000000000000 * den ≤ num then none
    else some (roundedQuotient (num * 1000000000) den)

end Settings

end Harvest.Fetch
