/-!
Searching a text for another.
-/

namespace Harvest.Text

/-- What stands before and after the first occurrence of `needle`. -/
def splitAtFirst? (needle : List Char) : List Char → Option (List Char × List Char)
  | [] => if needle.isEmpty then some ([], []) else none
  | c :: cs =>
    if needle.isPrefixOf (c :: cs) then some ([], (c :: cs).drop needle.length)
    else (splitAtFirst? needle cs).map fun (before, after) => (c :: before, after)

/-- Behind how many bytes `needle` first occurs, with so many passed over already. -/
def placeOf? (needle : List Char) (place : Nat) : List Char → Option Nat
  | [] => if needle.isEmpty then some place else none
  | c :: cs =>
    if needle.isPrefixOf (c :: cs) then some place else placeOf? needle (place + c.utf8Size) cs

def containsText (needle hay : List Char) : Bool := (splitAtFirst? needle hay).isSome

/-- What stands before and after the last occurrence of a character. -/
def splitAtLast? (sep : Char) (cs : List Char) : Option (List Char × List Char) :=
  let after := (cs.reverse.takeWhile (· != sep)).reverse
  if after.length < cs.length then some (cs.take (cs.length - after.length - 1), after) else none

/-- The text with every occurrence of `needle`, found from left to right, replaced. -/
def replaceText (needle replacement : List Char) (cs : List Char) : List Char :=
  if needle.isEmpty then cs
  else go 0 cs
where
  /-- `skip` characters of an occurrence are still to be passed over. -/
  go : Nat → List Char → List Char
    | _, [] => []
    | skip + 1, _ :: cs => go skip cs
    | 0, c :: cs =>
      if needle.isPrefixOf (c :: cs) then replacement ++ go (needle.length - 1) cs
      else c :: go 0 cs

end Harvest.Text
