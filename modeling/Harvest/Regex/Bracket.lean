import Harvest.Regex.Escape

/-!
Character classes in brackets.

A class is read with a stack of what is still open: the brackets, and the operators whose right
operand is being read. Operators have one precedence, bind to the left and bind less than standing
side by side, which is union.
-/

namespace Harvest.Regex

open Harvest.Text

inductive ClassOp
  | inter
  | diff
  | symmDiff
  deriving DecidableEq, Repr

def ClassOp.apply (f : Flags) (op : ClassOp) (a b : CodeSet) : CodeSet :=
  match op with
  | .inter => (f.close a).inter (f.close b)
  | .diff => (f.close a).diff (f.close b)
  | .symmDiff => (f.close a).symmDiff (f.close b)

/-- A union that is being read: its characters, and how deeply each of its items is nested. -/
structure ClassUnion where
  set : CodeSet
  depths : List Nat

namespace ClassUnion

def empty : ClassUnion := ⟨.empty, []⟩

def add (u : ClassUnion) (set : CodeSet) (depth : Nat) : ClassUnion :=
  ⟨u.set.union set, depth :: u.depths⟩

def depth (u : ClassUnion) : Nat := nestingOf u.depths

end ClassUnion

/-- What is open around the union that is being read. An operator has its left operand read, which
is nested so deeply. -/
inductive ClassFrame
  | bracket (outer : ClassUnion) (negated : Bool)
  | operator (op : ClassOp) (left : CodeSet) (depth : Nat)

/-- The brackets and operators that are open, innermost first, and the union being read. -/
structure ClassState where
  frames : List ClassFrame
  current : ClassUnion

namespace ClassState

def add (s : ClassState) (set : CodeSet) : ClassState := { s with current := s.current.add set 0 }

/-- What has been read within the innermost bracket, with the operator applied that waits for the
union just read: what is open around it, its characters and how deeply it is nested. -/
def operand (f : Flags) (s : ClassState) : List ClassFrame × CodeSet × Nat :=
  match s.frames with
  | .operator op left depth :: frames =>
    (frames, op.apply f left s.current.set, max depth s.current.depth + 1)
  | frames => (frames, s.current.set, s.current.depth)

def beginOperand (f : Flags) (s : ClassState) (op : ClassOp) : ClassState :=
  let (frames, left, depth) := s.operand f
  ⟨.operator op left depth :: frames, .empty⟩

/-- Closes the innermost bracket, which becomes an item of the union around it. -/
def closeBracket (f : Flags) (s : ClassState) : ClassState :=
  match s.operand f with
  | (.bracket outer negated :: frames, set, depth) =>
    let members := f.close set
    ⟨frames, outer.add (if negated then f.complement members else members) (depth + 1)⟩
  | _ => s

end ClassState

/-- The hyphens that begin a class stand for themselves, and so does a closing bracket that begins
one. -/
def readLeading (f : Flags) (u : ClassUnion) : List Char → ClassUnion × List Char
  | [] => (u, [])
  | c :: cs =>
    if f.spaced && isBlank c then readLeading f u cs
    else if c == '-' then readLeading f (u.add (.single c.toNat) 0) cs
    else if c == ']' && u.depths.isEmpty then (u.add (.single c.toNat) 0, cs)
    else (u, c :: cs)

/-- What stands behind an opening bracket: whether the class is negated, and its first members. -/
def openBracket (f : Flags) (s : ClassState) (cs : List Char) : ClassState × List Char :=
  let (negated, cs) := match f.skip cs with
    | '^' :: rest => (true, f.skip rest)
    | cs => (false, cs)
  let (first, rest) := readLeading f .empty cs
  (⟨.bracket s.current negated :: s.frames, first⟩, rest)

/-- A class named between colons, behind the bracket that opens it. -/
def readAsciiClass (f : Flags) (cs : List Char) : Option (CodeSet × List Char) := do
  let ':' :: cs := cs | none
  let (negated, cs) := match cs with
    | '^' :: rest => (true, rest)
    | cs => (false, cs)
  let name := cs.takeWhile (· != ':')
  let ':' :: ']' :: rest := cs.drop name.length | none
  let set ← asciiClass? name
  let set := f.close set
  return (if negated then f.complement set else set, rest)

/-- A member of a class: the character it is, if it is one, and the set it stands for. -/
def readMember (f : Flags) : List Char → Option ((Option Nat × CodeSet) × List Char)
  | [] => none
  | '\\' :: cs => do
    let (e, rest) ← readEscape f cs
    let set ← e.set? f
    match e with
    | .char c _ => return ((some c.toNat, set), rest)
    | _ => return ((none, set), rest)
  | c :: cs =>
    if f.unicode || c.toNat < 128 then some ((some c.toNat, .single c.toNat), cs) else none

/-- A member of a class or a range of characters. -/
def readRange (f : Flags) (cs : List Char) : Option (CodeSet × List Char) := do
  let ((first, set), rest) ← readMember f cs
  match f.skip rest with
  | [] => none
  | '-' :: after =>
    match f.skip after with
    | [] => none
    | c :: _ =>
      if c = ']' || c = '-' then return (set, '-' :: after)
      else
        let ((last, _), rest) ← readMember f (f.skip after)
        let lo ← first
        let hi ← last
        if lo ≤ hi then return (.range lo hi, rest) else none
  | rest => return (set, rest)

/-- One step within a class: what is open afterwards, with the rest of the text. -/
def stepClass (f : Flags) (s : ClassState) (cs : List Char) : Option (ClassState × List Char) :=
  match cs with
  | [] => none
  | '[' :: rest =>
    match readAsciiClass f rest with
    | some (set, rest) => some (s.add set, rest)
    | none => some (openBracket f s rest)
  | ']' :: rest => some (s.closeBracket f, rest)
  | '&' :: '&' :: rest => some (s.beginOperand f .inter, rest)
  | '-' :: '-' :: rest => some (s.beginOperand f .diff, rest)
  | '~' :: '~' :: rest => some (s.beginOperand f .symmDiff, rest)
  | cs => (readRange f cs).map fun (set, rest) => (s.add set, rest)

def readClassRest (f : Flags) (s : ClassState) (cs : List Char) : Option (ClassUnion × List Char) :=
  match s.frames with
  | [] => some (s.current, cs)
  | _ =>
    match stepClass f s (f.skip cs) with
    | none => none
    | some (s, rest) =>
      if rest.length < cs.length then readClassRest f s rest else none
  termination_by cs.length

/-- A class, behind its opening bracket, as a union with one item. -/
def readClass (f : Flags) (cs : List Char) : Option (ClassUnion × List Char) := do
  let (s, rest) := openBracket f ⟨[], .empty⟩ cs
  let (u, rest) ← readClassRest f s rest
  if f.admits u.set then return (u, rest) else none

end Harvest.Regex
