import Harvest.Text.CodeSet

/-!
Regular expressions as trees.

A tree says what is matched and in which order the ways to match are tried: of two alternatives the
left one first, of a repetition another round first if it is greedy. Flags are resolved when the
tree is built, so a tree carries none.
-/

namespace Harvest.Regex

open Harvest.Text

/-- What a word boundary asks of the characters on its two sides. -/
inductive WordEdge
  | boundary
  | inside
  | start
  | stop
  | startHalf
  | stopHalf
  deriving DecidableEq, Repr

/-- Conditions on a place in a text. Lines end at a line feed or, with `carriage`, at a carriage
return, a line feed or the two together. -/
inductive Look
  | textStart
  | textEnd
  | lineStart (carriage : Bool)
  | lineEnd (carriage : Bool)
  | word (ascii : Bool) (edge : WordEdge)
  deriving DecidableEq, Repr

inductive Node
  | empty
  /-- One character of a set. -/
  | oneOf (set : CodeSet)
  | look (condition : Look)
  | cat (first second : Node)
  | alt (first second : Node)
  /-- At least `least` and at most `most` rounds. -/
  | rounds (body : Node) (least : Nat) (most : Option Nat) (greedy : Bool)
  /-- What the body matches is remembered under a number. -/
  | group (number : Nat) (body : Node)
  deriving Repr, Inhabited

namespace Node

/-- Whether the empty text can be matched, looks aside. -/
def nullable : Node → Bool
  | .empty => true
  | .oneOf _ => false
  | .look _ => true
  | .cat a b => a.nullable && b.nullable
  | .alt a b => a.nullable || b.nullable
  | .rounds body least _ _ => least == 0 || body.nullable
  | .group _ body => body.nullable

/-- Whether nothing but the empty text can be matched. -/
def onlyEmpty : Node → Bool
  | .empty => true
  | .oneOf _ => false
  | .look _ => true
  | .cat a b => a.onlyEmpty && b.onlyEmpty
  | .alt a b => a.onlyEmpty && b.onlyEmpty
  | .rounds body _ most _ => most == some 0 || body.onlyEmpty
  | .group _ body => body.onlyEmpty

/-- A repetition; of a body that matches only the empty text one round is enough. -/
def repeated (body : Node) (least : Nat) (most : Option Nat) (greedy : Bool) : Node :=
  let (least, most) :=
    if body.onlyEmpty then (min least 1, some (min (most.getD 1) 1)) else (least, most)
  if most = some 0 then .empty
  else if least = 1 ∧ most = some 1 then body
  else .rounds body least most greedy

end Node

/-- How deeply a text of such parts is nested; a part that stands alone is the text. -/
def nestingOf : List Nat → Nat
  | [] => 0
  | [depth] => depth
  | depths => depths.foldl max 0 + 1

/-- The places that begin or end within a word or outside of one: what a word edge asks of the
characters before and after. -/
def WordEdge.holds (before after : Bool) : WordEdge → Bool
  | .boundary => before != after
  | .inside => before == after
  | .start => !before && after
  | .stop => before && !after
  | .startHalf => !before
  | .stopHalf => !after

/-- A regular expression: its tree, the number of its groups with the whole match as group 0, and
the names of its groups. -/
structure Expression where
  node : Node
  groups : Nat
  names : List (String × Nat)

end Harvest.Regex
