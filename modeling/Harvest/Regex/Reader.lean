import Harvest.Regex.Bracket
import Harvest.Regex.Size

/-!
Regular expressions from text.

The text is read from left to right with the groups that are open. Reading yields no expression
where a bracket, brace or group is not closed, a repetition has nothing to repeat, an escape or flag
is unknown, a group looks around itself, the text is nested too deeply, or the automaton for it
would be too large.
-/

namespace Harvest.Regex

open Harvest.Text

/-- A tree, and how deeply the text that it was read from is nested. -/
structure Piece where
  node : Node
  depth : Nat

/-- A group that is being read. Its branches are kept last first, and so are the members of the
branch that is being read; a change of flags counts as a member that is no tree. -/
structure OpenGroup where
  number : Option Nat
  branches : List Piece
  members : List (Option Piece)
  outerFlags : Flags

namespace OpenGroup

def start (number : Option Nat) (outerFlags : Flags) : OpenGroup := ⟨number, [], [], outerFlags⟩

def add (g : OpenGroup) (p : Piece) : OpenGroup := { g with members := some p :: g.members }

def branch (g : OpenGroup) : Piece where
  node := match g.members.filterMap (·.map Piece.node) with
    | [] => .empty
    | last :: before => before.foldl (fun acc n => .cat n acc) last
  depth := nestingOf (g.members.map fun m => m.elim 0 Piece.depth)

def nextBranch (g : OpenGroup) : OpenGroup :=
  { g with branches := g.branch :: g.branches, members := [] }

def content (g : OpenGroup) : Piece where
  node := g.branches.foldl (fun acc p => .alt p.node acc) g.branch.node
  depth := nestingOf (g.branch.depth :: g.branches.map Piece.depth)

def closed (g : OpenGroup) : Piece where
  node := match g.number with
    | some n => .group n g.content.node
    | none => g.content.node
  depth := g.content.depth + 1

end OpenGroup

/-- The state of reading: the innermost group, the groups around it, the flags in force, the number
of groups so far and their names. -/
structure ReadState where
  inner : OpenGroup
  outer : List OpenGroup
  flags : Flags
  groups : Nat
  names : List (String × Nat)

/-- Adds a tree whose text has nothing in it. -/
def ReadState.add (s : ReadState) (n : Node) : ReadState := { s with inner := s.inner.add ⟨n, 0⟩ }

def Flags.set? (f : Flags) (letter : Char) (value : Bool) : Option Flags :=
  match letter with
  | 'i' => some { f with anyCase := value }
  | 'm' => some { f with manyLines := value }
  | 's' => some { f with dotAll := value }
  | 'U' => some { f with lazyFirst := value }
  | 'u' => some { f with unicode := value }
  | 'R' => some { f with carriage := value }
  | 'x' => some { f with spaced := value }
  | _ => none

/-- Letters of flags up to a colon or a closing parenthesis, which is given back; those behind a
hyphen are switched off. A letter may stand once, a hyphen once and not last. -/
def readFlags (f : Flags) (seen : List Char) (on : Bool) :
    List Char → Option (Flags × Char × List Char)
  | [] => none
  | c :: cs =>
    if c == ':' || c == ')' then
      if seen.head? == some '-' then none else some (f, c, cs)
    else if seen.contains c then none
    else if c == '-' then readFlags f (c :: seen) false cs
    else do
      let f ← f.set? c on
      readFlags f (c :: seen) on cs

def isNameChar (first : Bool) (c : Char) : Bool :=
  c == '_' || (if first then isAlphabetic c
    else c == '.' || c == '[' || c == ']' || isAlphanumeric c)

def openGroup (s : ReadState) (cs : List Char) : Option (ReadState × List Char) :=
  let enter (number : Option Nat) (s : ReadState) : ReadState :=
    { s with inner := .start number s.flags, outer := s.inner :: s.outer }
  let named (cs : List Char) : Option (ReadState × List Char) :=
    let name := cs.takeWhile (· != '>')
    match cs.drop name.length, name with
    | _ :: rest, first :: more =>
      let key := String.ofList name
      if isNameChar true first && more.all (isNameChar false) && (s.names.lookup key).isNone then
        some (enter (some s.groups)
          { s with groups := s.groups + 1, names := (key, s.groups) :: s.names }, rest)
      else none
    | _, _ => none
  match s.flags.skip cs with
  | '?' :: '=' :: _ => none
  | '?' :: '!' :: _ => none
  | '?' :: '<' :: '=' :: _ => none
  | '?' :: '<' :: '!' :: _ => none
  | '?' :: 'P' :: '<' :: rest => named rest
  | '?' :: '<' :: rest => named rest
  | '?' :: rest => do
    let (flags, closing, after) ← readFlags s.flags [] true rest
    if closing == ':' then return ({ enter none s with flags := flags }, after)
    else if rest.head? == some ')' then none
    else
      let inner := { s.inner with members := none :: s.inner.members }
      return ({ s with inner := inner, flags := flags }, after)
  | rest => some (enter (some s.groups) { s with groups := s.groups + 1 }, rest)

def closeGroup (s : ReadState) : Option ReadState :=
  match s.outer with
  | [] => none
  | around :: outer =>
    some { s with inner := around.add s.inner.closed, outer := outer, flags := s.inner.outerFlags }

/-- Repeats the last member; a question mark behind the repetition turns its greed around. -/
def repeatLast (s : ReadState) (least : Nat) (most : Option Nat) (cs : List Char) :
    Option (ReadState × List Char) :=
  match s.inner.members with
  | some body :: before =>
    let (turned, rest) := match cs with
      | '?' :: rest => (true, rest)
      | cs => (false, cs)
    let greedy := turned == s.flags.lazyFirst
    let repeated : Piece := ⟨body.node.repeated least most greedy, body.depth + 1⟩
    let members := some repeated :: before
    some ({ s with inner := { s.inner with members := members } }, rest)
  | _ => none

/-- Decimal digits, blanks and comments left out where they do not count. -/
def readDecimal (f : Flags) (inComment : Bool) : List Char → List Char × List Char
  | [] => ([], [])
  | c :: cs =>
    if inComment then readDecimal f (c != '\n') cs
    else if f.spaced && isBlank c then readDecimal f false cs
    else if f.spaced && c == '#' then readDecimal f true cs
    else if isAsciiDigit c then
      let (digits, rest) := readDecimal f false cs
      (c :: digits, rest)
    else ([], c :: cs)

/-- A count of rounds, with blanks around it; it has at least one digit and fits 32 bits. -/
def readCount (f : Flags) (cs : List Char) : Option (Nat × List Char) :=
  let (digits, rest) := readDecimal f false (trimStart (f.skip cs))
  let n := digits.foldl (fun acc c => acc * 10 + (c.toNat - 48)) 0
  if digits.isEmpty || 0x100000000 ≤ n then none else some (n, trimStart rest)

/-- A repetition in braces, behind the opening one. -/
def readBraces (s : ReadState) (cs : List Char) : Option (ReadState × List Char) := do
  let finish (least : Nat) (most : Option Nat) (cs : List Char) := do
    let '}' :: rest := cs | none
    repeatLast s least most (s.flags.skip rest)
  let (least, cs) ← readCount s.flags cs
  match cs with
  | ',' :: rest =>
    match s.flags.skip rest with
    | '}' :: _ => finish least none (s.flags.skip rest)
    | rest =>
      let (most, cs) ← readCount s.flags rest
      if least ≤ most then finish least (some most) cs else none
  | cs => finish least (some least) cs

def readStep (s : ReadState) (c : Char) (cs : List Char) : Option (ReadState × List Char) :=
  match c with
  | '(' => openGroup s cs
  | ')' => (closeGroup s).map (·, cs)
  | '|' => some ({ s with inner := s.inner.nextBranch }, cs)
  | '[' => (readClass s.flags cs).map fun (u, rest) =>
    ({ s with inner := s.inner.add ⟨.oneOf u.set, u.depth⟩ }, rest)
  | '?' => repeatLast s 0 (some 1) cs
  | '*' => repeatLast s 0 none cs
  | '+' => repeatLast s 1 none cs
  | '{' => readBraces s cs
  | '\\' => do
    let (e, rest) ← readEscape s.flags cs
    return (s.add (← e.node? s.flags), rest)
  | '.' =>
    if !s.flags.unicode then none
    else
      let lineEnds := if s.flags.dotAll then CodeSet.empty
        else if s.flags.carriage then (CodeSet.single 10).union (.single 13)
        else .single 10
      some (s.add (.oneOf lineEnds.compl), cs)
  | '^' =>
    some (s.add (.look (if s.flags.manyLines then .lineStart s.flags.carriage else .textStart)), cs)
  | '$' =>
    some (s.add (.look (if s.flags.manyLines then .lineEnd s.flags.carriage else .textEnd)), cs)
  | c => (charNode? s.flags c).map fun n => (s.add n, cs)

def readAll (s : ReadState) (cs : List Char) : Option ReadState :=
  match s.flags.skip cs with
  | [] => some s
  | c :: rest =>
    match readStep s c rest with
    | none => none
    | some (s, after) =>
      if after.length < cs.length then readAll s after else none
  termination_by cs.length

def nestLimit : Nat := 250

def sizeLimit : Nat := 10 * 1024 * 1024

def Expression.ofText? (source : String) : Option Expression := do
  let start : ReadState := ⟨.start none .default, [], .default, 1, []⟩
  let s ← readAll start source.toList
  let whole := s.inner.content
  if s.outer.isEmpty ∧ whole.depth ≤ nestLimit ∧ (Node.group 0 whole.node).size ≤ sizeLimit then
    return ⟨whole.node, s.groups, s.names⟩
  else none

end Harvest.Regex
