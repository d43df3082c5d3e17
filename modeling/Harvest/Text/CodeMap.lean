import Harvest.Text.CodeSet

/-!
Tables over the code points.

A table is written as the code points at which a run begins, each with what the run holds. In a
`CodeMap` a run of one number shifts along with the code point, a run of several numbers or of none
stands for the same code points throughout, and a run without an image leaves code points as they
are. In a `CodeLabels` table each run has a label.
-/

namespace Harvest.Text

/-- A map from code points to lists of code points, given by the starts of its runs. -/
structure CodeMap where
  starts : Array Nat
  images : Array (Option (List Nat))

/-- A labelling of all code points, given by the starts of its runs. -/
structure CodeLabels where
  starts : Array Nat
  labels : Array String

/-- The two sides of the first equals sign of an entry. -/
def splitEntry (entry : List Char) : List Char × List Char :=
  (entry.takeWhile (· != '='), (entry.dropWhile (· != '=')).drop 1)

/-- The numbers of an image: none written for identity, a hyphen for the empty image, else
hexadecimal numbers joined with plus signs. -/
def readImage (cs : List Char) : Option (List Nat) :=
  match cs with
  | [] => none
  | ['-'] => some []
  | cs => some ((cs.splitOn '+').map hexValue)

namespace CodeMap

def ofTable (table : String) : CodeMap :=
  let entries := (tableWords table).map splitEntry
  ⟨(entries.map fun e => hexValue e.1).toArray, (entries.map fun e => readImage e.2).toArray⟩

/-- The image of a code point, none where the map leaves it as it is. -/
def image? (m : CodeMap) (n : Nat) : Option (List Nat) :=
  match countUpTo m.starts n 0 m.starts.size with
  | 0 => none
  | i + 1 =>
    match m.images.getD i none with
    | some [v] => some [v + (n - m.starts.getD i 0)]
    | other => other

def apply (m : CodeMap) (c : Char) : List Char :=
  match m.image? c.toNat with
  | none => [c]
  | some ns => ns.map Char.ofNat

end CodeMap

namespace CodeLabels

def ofTable (table : String) : CodeLabels :=
  let entries := (tableWords table).map splitEntry
  ⟨(entries.map fun e => hexValue e.1).toArray, (entries.map fun e => String.ofList e.2).toArray⟩

def label (t : CodeLabels) (n : Nat) : String :=
  t.labels.getD (countUpTo t.starts n 0 t.starts.size - 1) ""

/-- The bounds of the runs whose labels satisfy `p`, from a position in the list of runs. -/
def boundsWhere (p : String → Bool) (inside : Bool) : List (Nat × String) → List Nat
  | [] => []
  | (n, l) :: rest =>
    if p l == inside then boundsWhere p inside rest else n :: boundsWhere p (p l) rest

/-- The code points whose labels satisfy `p`. -/
def codeSet (t : CodeLabels) (p : String → Bool) : CodeSet :=
  ⟨(boundsWhere p false (t.starts.toList.zip t.labels.toList)).toArray⟩

end CodeLabels

end Harvest.Text
