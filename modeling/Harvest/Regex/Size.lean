import Harvest.Regex.Syntax

/-!
How large the automaton of a regular expression is.

The automaton reads bytes and is built twice, to be run forwards and backwards; there is a limit on
the memory that its states take. A state takes 32 bytes, each way out of a choice 4 more, and each
range of ASCII characters of a set 8 more. Characters beyond ASCII are spelled by rows of byte
ranges. Backwards these take the most, a state for every beginning of a row, and groups take none;
what is counted of each part is the larger of the two.
-/

namespace Harvest.Regex

open Harvest.Text

/-- The numbers of a range as rows of byte ranges, each of which spells all their combinations: a
first byte, which has an offset, and so many bytes of six bits behind it. -/
def byteRows : Nat → Nat → Nat → Nat → List (List (Nat × Nat))
  | 0, offset, lo, hi => [[(offset + lo, offset + hi)]]
  | more + 1, offset, lo, hi =>
    let block := 1 <<< (6 * (more + 1))
    let part (first lo hi : Nat) : List (List (Nat × Nat)) :=
      (byteRows more 0x80 lo hi).map ((offset + first, offset + first) :: ·)
    let first := lo / block
    let last := hi / block
    -- The first bytes from `whole` up to `stop` stand before every combination of the others.
    let whole := if lo % block = 0 then first else first + 1
    let stop := if hi % block = block - 1 then last + 1 else last
    if first = last ∧ stop ≤ whole then part first (lo % block) (hi % block)
    else
      let before := if whole = first then [] else part first (lo % block) (block - 1)
      let middle := if stop ≤ whole then []
        else [(offset + whole, offset + stop - 1) :: List.replicate (more + 1) (0x80, 0xBF)]
      let behind := if stop = last then part last 0 (hi % block) else []
      before ++ middle ++ behind

/-- The code points that take as many bytes as each other, with the bytes behind the first one and
the offset of the first one. -/
def byteLengths : List (Nat × Nat × Nat × Nat) :=
  [(0, 0x7F, 0, 0), (0x80, 0x7FF, 1, 0xC0), (0x800, 0xD7FF, 2, 0xE0), (0xE000, 0xFFFF, 2, 0xE0),
    (0x10000, 0x10FFFF, 3, 0xF0)]

/-- The rows of byte ranges that spell the characters of a set, in order. -/
def spelledBy (set : CodeSet) : List (List (Nat × Nat)) :=
  set.ranges.flatMap fun (lo, hi) => byteLengths.flatMap fun (least, most, more, offset) =>
    if max lo least ≤ min hi most then byteRows more offset (max lo least) (min hi most) else []

/-- How many places of a row do not belong to a beginning that the row before has as well. -/
def newPlaces : List (Nat × Nat) → List (Nat × Nat) → Nat
  | a :: before, b :: row => if a = b then newPlaces before row else row.length + 1
  | _, row => row.length

def stateSize : Nat := 32

/-- The bytes that the states for a set take. A single character is spelled by its bytes. -/
def setSize (set : CodeSet) : Nat :=
  let rows := spelledBy set
  if rows.length = 1 ∧ rows.all (·.all fun (a, b) => a == b) then stateSize * rows.flatten.length
  else if rows.all (·.length ≤ 1) then 2 * stateSize + 8 * rows.length
  else
    let places := (([] :: rows).zip rows).map fun (before, row) => newPlaces before row
    2 * stateSize + 4 * rows.length + stateSize * places.foldl (· + ·) 0

def Node.size : Node → Nat
  | .empty => stateSize
  | .oneOf set => setSize set
  | .look _ => stateSize
  | .cat a b => a.size + b.size
  | .alt a b => a.size + b.size + 2 * (stateSize + 4)
  | .rounds body least most _ =>
    match most with
    | none => max least 1 * body.size + (stateSize + 8)
    | some most => least * body.size + (most - least) * (body.size + (stateSize + 8)) + stateSize
  | .group _ body => body.size + 2 * stateSize

end Harvest.Regex
