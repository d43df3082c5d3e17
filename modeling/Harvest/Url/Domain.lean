import Harvest.Text.Blank
import Harvest.Text.Category
import Harvest.Text.Compatibility
import Harvest.Text.Direction
import Harvest.Text.Normal
import Harvest.Url.Punycode

/-!
Domain names in ASCII.

A name is folded and composed first. Its labels are checked, and those that hold other characters
than ASCII are written in Punycode behind a mark. A label that comes with the mark has to stand for
one that would be written so.
-/

namespace Harvest.Url.Domain

open Harvest.Text

/-- Whether a code point is without a meaning of its own: no character, a control of direction or a
tag. Folding would drop some of them. -/
def isMeaningless (n : Nat) : Bool :=
  category n == "Cn" || n == 0x61C || n == 0x200E || n == 0x200F || (0x202A ≤ n && n ≤ 0x202E) ||
    (0x2066 ≤ n && n ≤ 0x2069) || n == 0xE0001 || (0xE0020 ≤ n && n ≤ 0xE007F)

/-- The full stops that part the labels of a name. -/
def isFullStop (n : Nat) : Bool := n == 0x2E || n == 0x3002 || n == 0xFF0E || n == 0xFF61

/-- The image of a code point of a name: characters that some scripts tell apart are kept, and what
no name may hold becomes the replacement character, as does what holds a full stop but is none. -/
def fold (n : Nat) : List Nat :=
  if n < 128 then [if 65 ≤ n ∧ n ≤ 90 then n + 32 else n]
  else if n = 0xDF || n = 0x3C2 || n = 0x200C || n = 0x200D then [n]
  else if n = 0x1E9E then [0xDF]
  else if isFullStop n then [0x2E]
  else if isMeaningless n then [0xFFFD]
  else
    match compatibilityFolding.image? n with
    | some ns => if ns.any isFullStop then [0xFFFD] else ns
    | none => [n]

def normalize (ns : List Nat) : List Nat := composed (ns.flatMap fold)

def isAllowed (n : Nat) : Bool :=
  if n < 128 then
    let c := Char.ofNat n
    !(n ≤ 32 || n == 127 || "#/:<>?@[\\]^|%".toList.contains c)
  else
    n == 0x200C || n == 0x200D ||
      (!(["C", "Z"].contains (String.ofList ((category n).toList.take 1))) &&
        !(0x2FF0 ≤ n && n ≤ 0x2FFB) && n != 0xFFFC && n != 0xFFFD)

def isMark (n : Nat) : Bool := (category n).toList.head? == some 'M'

/-- Whether the joiners behind what stands before, in reverse, are in a context that uses them:
behind a virama, or a non-joiner between two characters that would join. -/
def joinersFit (before : List Nat) : List Nat → Bool
  | [] => true
  | n :: ns =>
    let behindVirama := match before with
      | m :: _ => combiningClass m == 9
      | [] => false
    let ofType (types : List String) (ms : List Nat) : Bool :=
      match ms.dropWhile (fun m => joiningType m == "T") with
      | m :: _ => types.contains (joiningType m)
      | [] => false
    let fits :=
      if n = 0x200D then behindVirama
      else if n = 0x200C then behindVirama || (ofType ["L", "D"] before && ofType ["R", "D"] ns)
      else true
    fits && joinersFit (n :: before) ns

def isValidLabel (label : List Nat) : Bool :=
  label.all isAllowed && joinersFit [] label &&
    match label with
    | n :: _ => !isMark n
    | [] => true

def isRightToLeft (n : Nat) : Bool := ["R", "AL", "AN"].contains (direction n)

/-- Whether the characters of a label keep to one direction. -/
def keepsDirection (label : List Nat) : Bool :=
  let classes := label.map direction
  let ending := (classes.reverse.dropWhile (· == "NSM")).head?
  match classes.head? with
  | none => true
  | some "L" =>
    classes.all (["L", "EN", "ES", "CS", "ET", "ON", "BN", "NSM"].contains ·) &&
      (ending == some "L" || ending == some "EN")
  | some first =>
    (first == "R" || first == "AL") &&
      classes.all (["R", "AL", "AN", "EN", "ES", "CS", "ET", "ON", "BN", "NSM"].contains ·) &&
      (ending.any (["R", "AL", "EN", "AN"].contains ·)) &&
      !(classes.contains "EN" && classes.contains "AN")

/-- The mark of a label in Punycode. -/
def mark : List Nat := "xn--".toList.map Char.toNat

/-- What a label stands for: one with the mark for what it spells, any other for itself. -/
def labelMeaning? (label : List Nat) : Option (List Nat) :=
  if mark.isPrefixOf label then do
    if !label.all (· < 128) then none
    let meant ← Punycode.decode? ((label.drop 4).map Char.ofNat)
    if meant.isEmpty || meant.all (· < 128) || normalize meant != meant then none
    return meant
  else some label

def labelText (label : List Nat) : List Char :=
  if label.all (· < 128) then label.map Char.ofNat
  else mark.map Char.ofNat ++ Punycode.encode label

/-- The name in ASCII, none for one that is no domain name. -/
def toAscii? (name : List Char) : Option (List Char) := do
  let labels := (normalize (name.map Char.toNat)).splitOn 0x2E
  let meant ← labels.mapM labelMeaning?
  if !meant.all isValidLabel then none
  if meant.any (·.any isRightToLeft) && !meant.all keepsDirection then none
  return (['.'] : List Char).intercalate (meant.map labelText)

end Harvest.Url.Domain
