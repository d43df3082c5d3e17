/-!
Sets of code points.

A set is written as the increasing list of the code points at which membership changes: a code
point is a member when an odd number of them are not above it. The Boolean operations merge two
such lists, and membership is a binary search.
-/

namespace Harvest.Text

/-- A set of code points, given by the places where membership changes. -/
structure CodeSet where
  bounds : Array Nat
  deriving Repr, DecidableEq, Inhabited

/-- The number of entries of a sorted array that are not above `n`, found between `lo` and `hi`. -/
def countUpTo (bounds : Array Nat) (n : Nat) (lo hi : Nat) : Nat :=
  if lo < hi then
    let mid := (lo + hi) / 2
    if bounds.getD mid 0 ≤ n then countUpTo bounds n (mid + 1) hi
    else countUpTo bounds n lo mid
  else lo
  termination_by hi - lo

/-- The value of a hexadecimal digit, none for any other character. -/
def hexDigit? (c : Char) : Option Nat :=
  let n := c.toNat
  if 48 ≤ n ∧ n ≤ 57 then some (n - 48)
  else if 65 ≤ n ∧ n ≤ 70 then some (n - 55)
  else if 97 ≤ n ∧ n ≤ 102 then some (n - 87)
  else none

/-- The number a row of hexadecimal digits stands for; other characters count as zero. -/
def hexValue (digits : List Char) : Nat :=
  digits.foldl (fun acc c => acc * 16 + (hexDigit? c).getD 0) 0

/-- The words of a table text, split at blanks and line ends in one pass. -/
def tableWords (s : String) : List (List Char) :=
  let step (acc : List (List Char) × List Char) (c : Char) : List (List Char) × List Char :=
    if c = ' ' ∨ c = '\n' then
      (if acc.2.isEmpty then acc.1 else acc.2.reverse :: acc.1, [])
    else (acc.1, c :: acc.2)
  let (done, open_) := s.foldl step ([], [])
  ((if open_.isEmpty then done else open_.reverse :: done)).reverse

namespace CodeSet

/-- The set whose bounds are written in hexadecimal, separated by blanks. -/
def ofHex (table : String) : CodeSet := ⟨((tableWords table).map hexValue).toArray⟩

def empty : CodeSet := ⟨#[]⟩

def all : CodeSet := ⟨#[0]⟩

/-- The code points from `lo` to `hi`, both included. -/
def range (lo hi : Nat) : CodeSet := if lo ≤ hi then ⟨#[lo, hi + 1]⟩ else empty

def single (n : Nat) : CodeSet := range n n

def contains (s : CodeSet) (n : Nat) : Bool :=
  countUpTo s.bounds n 0 s.bounds.size % 2 == 1

/-- Merges two lists of bounds: a bound is kept where the combined membership changes. `inA`, `inB`
and `inOut` are the two memberships and the combined one before the first bound. -/
def mergeBounds (f : Bool → Bool → Bool) (inA inB inOut : Bool) :
    List Nat → List Nat → List Nat
  | [], [] => []
  | a :: as, [] => keep a (!inA) inB as []
  | [], b :: bs => keep b inA (!inB) [] bs
  | a :: as, b :: bs =>
    if a < b then keep a (!inA) inB as (b :: bs)
    else if b < a then keep b inA (!inB) (a :: as) bs
    else keep a (!inA) (!inB) as bs
  termination_by as bs => (as.length + bs.length, 0)
where
  keep (n : Nat) (inA inB : Bool) (as bs : List Nat) : List Nat :=
    let now := f inA inB
    if now = inOut then mergeBounds f inA inB now as bs
    else n :: mergeBounds f inA inB now as bs
  termination_by (as.length + bs.length, 1)

/-- The set of the code points whose memberships in two sets satisfy `f`, which rejects a code
point that is in neither. -/
def combine (f : Bool → Bool → Bool) (s t : CodeSet) : CodeSet :=
  ⟨(mergeBounds f false false false s.bounds.toList t.bounds.toList).toArray⟩

def union (s t : CodeSet) : CodeSet := combine (· || ·) s t
def inter (s t : CodeSet) : CodeSet := combine (· && ·) s t
def diff (s t : CodeSet) : CodeSet := combine (fun a b => a && !b) s t
def symmDiff (s t : CodeSet) : CodeSet := combine (fun a b => a != b) s t

def compl (s : CodeSet) : CodeSet := diff all s

def unions (sets : List CodeSet) : CodeSet := sets.foldl union empty

/-- The members in increasing order as ranges, both ends included, below `0x110000`. -/
def ranges (s : CodeSet) : List (Nat × Nat) := go s.bounds.toList
where
  go : List Nat → List (Nat × Nat)
    | [] => []
    | [a] => [(a, 0x10FFFF)]
    | a :: b :: rest => (a, b - 1) :: go rest

end CodeSet

end Harvest.Text
