import Harvest.Json.Decode

/-!
How long to wait before the next attempt.

A delay is a whole number of milliseconds below `2 ^ 64`; arithmetic that would exceed this stays at
the greatest of them.
-/

namespace Harvest.Fetch

inductive Backoff
  | exponential
  | linear
  | constant
  deriving DecidableEq, Repr

inductive Jitter
  | none
  | full
  | equal
  deriving DecidableEq, Repr

structure RetryPolicy where
  base : Nat
  most : Nat
  backoff : Backoff
  jitter : Jitter
  deriving DecidableEq, Repr

namespace RetryPolicy

def default : RetryPolicy := ⟨500, 10000, .exponential, .full⟩

def greatest : Nat := 0xFFFFFFFFFFFFFFFF

/-- A product that stays at the greatest delay. -/
def times (a b : Nat) : Nat := min greatest (a * b)

/-- A power of two that stays at the greatest delay. -/
def doublings (attempt : Nat) : Nat := if attempt < 64 then Nat.pow 2 attempt else greatest

/-- The delay after the given attempt, counted from zero, before chance comes in. -/
def delay (p : RetryPolicy) (attempt : Nat) : Nat :=
  let grown := match p.backoff with
    | .exponential => times p.base (doublings attempt)
    | .linear => times p.base (attempt + 1)
    | .constant => p.base
  min grown p.most

def range (p : RetryPolicy) (attempt : Nat) : Nat × Nat :=
  let d := p.delay attempt
  match p.jitter with
  | .none => (d, d)
  | .full => (0, d)
  | .equal =>
    let half := d / 2
    if half = 0 then (d, d) else (half, half + half)

def delays (p : RetryPolicy) (attempt : Nat) : List Nat :=
  let r := p.range attempt
  List.range' r.1 (r.2 + 1 - r.1)

def Backoff.names : List (String × Backoff) :=
  [("exponential", .exponential), ("linear", .linear), ("constant", .constant)]

def Jitter.names : List (String × Jitter) := [("none", .none), ("full", .full), ("equal", .equal)]

open Json in
def ofJson? (j : Json) : Option RetryPolicy := do
  let fields ← record? ["base_delay_ms", "max_delay_ms", "backoff", "jitter"] j
  let base ← optional? fields "base_delay_ms" default.base (natBits? 64)
  let most ← optional? fields "max_delay_ms" default.most (natBits? 64)
  let backoff ← optional? fields "backoff" default.backoff (named? Backoff.names)
  let jitter ← optional? fields "jitter" default.jitter (named? Jitter.names)
  return ⟨base, most, backoff, jitter⟩

end RetryPolicy

end Harvest.Fetch
