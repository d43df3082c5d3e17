import Harvest.Regex.Program
import Harvest.Regex.Reader

/-!
Searching texts for regular expressions.

A program is run on all its threads at once, one character after the other. The threads are kept in
order of preference: one that comes to an instruction where another one already stands is dropped,
and one that is done drops those after it. So the match found is the one that begins first, and of
those that begin there the one that is preferred.
-/

namespace Harvest.Regex

open Harvest.Text

/-- The places remembered on the way: where each group begins and ends. -/
abbrev Slots := Array (Option Nat)

structure Thread where
  at_ : Nat
  slots : Slots

/-- A place in a text: its number, and the characters before and after it. -/
structure Place where
  position : Nat
  before : Option Char
  after : Option Char

def isWordChar (ascii : Bool) (c : Option Char) : Bool :=
  match c with
  | none => false
  | some c =>
    if c.toNat < 128 then isAsciiAlphanumeric c || c == '_'
    else !ascii && wordSet.contains c.toNat

def Look.holds (p : Place) : Look → Bool
  | .textStart => p.before.isNone
  | .textEnd => p.after.isNone
  | .lineStart carriage =>
    match p.before with
    | none => true
    | some c => c == '\n' || carriage && c == '\r' && p.after != some '\n'
  | .lineEnd carriage =>
    match p.after with
    | none => true
    | some c =>
      if carriage then c == '\r' || c == '\n' && p.before != some '\r' else c == '\n'
  | .word ascii edge => edge.holds (isWordChar ascii p.before) (isWordChar ascii p.after)

/-- The threads at a place, with marks on the instructions where one stands. -/
structure Front where
  marks : Array Bool
  threads : List Thread

/-- Follows a thread to the instructions that take a character or are done, and puts it there before
the threads found so far. Every instruction is entered once, so the depth is bounded by their
number. -/
def follow (program : Program) (p : Place) : Nat → Front → Thread → Front
  | 0, front, _ => front
  | depth + 1, front, t =>
    if front.marks.getD t.at_ true then front
    else
      let front := { front with marks := front.marks.set! t.at_ true }
      match program.code.getD t.at_ .done with
      | .take _ _ => { front with threads := t :: front.threads }
      | .done => { front with threads := t :: front.threads }
      | .split first second =>
        let front := follow program p depth front { t with at_ := first }
        follow program p depth front { t with at_ := second }
      | .look condition next =>
        if condition.holds p then follow program p depth front { t with at_ := next } else front
      | .save slot next =>
        follow program p depth front ⟨next, t.slots.set! slot (some p.position)⟩

/-- The threads at a place, in order of preference. -/
def settle (program : Program) (p : Place) (threads : List Thread) : List Thread :=
  let start : Front := ⟨Array.replicate program.code.size false, []⟩
  (threads.foldl (follow program p (program.code.size + 1)) start).threads.reverse

/-- The threads that go on, up to the first one that is done, and what that one remembers. -/
def splitDone (program : Program) : List Thread → List Thread × Option Slots
  | [] => ([], none)
  | t :: ts =>
    match program.code.getD t.at_ .done with
    | .done => ([], some t.slots)
    | _ =>
      let (live, found) := splitDone program ts
      (t :: live, found)

/-- The thread behind a character, if it takes that one. -/
def takeChar? (program : Program) (c : Char) (t : Thread) : Option Thread :=
  match program.code.getD t.at_ .done with
  | .take set next => if set.contains c.toNat then some { t with at_ := next } else none
  | _ => none

/-- The threads that stand at a place, and what is remembered of a match that ends there or was
found before; until a match is found a new thread begins at every place, after the others. -/
def arrive (program : Program) (place : Place) (threads : List Thread) (found : Option Slots) :
    List Thread × Option Slots :=
  let fresh : Thread := ⟨program.start, Array.replicate program.slots none⟩
  let threads := if found.isNone then threads ++ [fresh] else threads
  let (live, hit) := splitDone program (settle program place threads)
  (live, hit.or found)

def scan (program : Program) (before : Option Char) (position : Nat) (threads : List Thread)
    (found : Option Slots) : List Char → Option Slots
  | [] => (arrive program ⟨position, before, none⟩ threads found).2
  | c :: rest =>
    let (live, found) := arrive program ⟨position, before, some c⟩ threads found
    let threads := live.filterMap (takeChar? program c)
    if threads.isEmpty && found.isSome then found
    else scan program (some c) (position + 1) threads found rest

/-- A match: what each group matched, the whole match first; none for a group that took no part. -/
structure Match where
  start : Nat
  stop : Nat
  groups : List (Option String)

def Match.ofSlots (text : Array Char) (groups : Nat) (slots : Slots) : Match :=
  let place (i : Nat) : Option Nat := slots.getD i none
  { start := (place 0).getD 0
    stop := (place 1).getD 0
    groups := (List.range groups).map fun g =>
      match place (2 * g), place (2 * g + 1) with
      | some a, some b => some (String.ofList (text.extract a b).toList)
      | _, _ => none }

namespace Expression

variable (e : Expression)

def firstMatch? (text : String) : Option Match :=
  (scan e.program none 0 [] none text.toList).map (Match.ofSlots text.toList.toArray e.groups)

def isMatch (text : String) : Bool := (scan e.program none 0 [] none text.toList).isSome

/-- The matches from a place on, from left to right. An empty match right behind another match does
not count; `emptyOk` says that none ends at the place. -/
def matchesFrom (program : Program) (text : Array Char) (before : Option Char) (position : Nat)
    (emptyOk : Bool) (rest : List Char) : List Match :=
  match (scan program before position [] none rest).map (Match.ofSlots text e.groups) with
  | none => []
  | some m =>
    if m.stop = position then
      if emptyOk then m :: matchesFrom program text before position false rest
      else
        match rest with
        | [] => []
        | c :: rest => matchesFrom program text (some c) (position + 1) true rest
    else
      if _h : (rest.drop (m.stop - position)).length < rest.length then
        m :: matchesFrom program text rest[m.stop - position - 1]? m.stop false
          (rest.drop (m.stop - position))
      else [m]
  termination_by (rest.length, emptyOk.toNat)
  decreasing_by
    · exact Prod.Lex.right _ (by simp_all)
    · exact Prod.Lex.left _ _ (by simp)
    · exact Prod.Lex.left _ _ _h

def allMatches (text : String) : List Match :=
  e.matchesFrom e.program text.toList.toArray none 0 true text.toList

end Expression

end Harvest.Regex
