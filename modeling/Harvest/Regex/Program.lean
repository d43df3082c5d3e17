import Harvest.Regex.Syntax

/-!
Programs for regular expressions.

A program is an array of instructions that name the instructions to go on with. A tree is turned
into instructions from its end to its beginning: each part is given the instruction that follows it.
-/

namespace Harvest.Regex

open Harvest.Text

inductive Instruction
  | take (set : CodeSet) (next : Nat)
  /-- Goes on at two places, of which the first is preferred. -/
  | split (first second : Nat)
  | look (condition : Look) (next : Nat)
  /-- Remembers the place in the text. -/
  | save (slot : Nat) (next : Nat)
  | done
  deriving Repr, Inhabited

abbrev Code := Array Instruction

def Code.add (code : Code) (i : Instruction) : Nat × Code := (code.size, code.push i)

/-- Puts a part before an instruction: the part's first instruction, and the longer code. -/
abbrev Emit := Nat → Code → Nat × Code

/-- The part so many times in a row. -/
def Emit.times (emit : Emit) : Nat → Emit
  | 0, next, code => (next, code)
  | n + 1, next, code =>
    let (rest, code) := Emit.times emit n next code
    emit rest code

def choice (greedy : Bool) (on out : Nat) : Instruction :=
  if greedy then .split on out else .split out on

/-- The part at most so many times in a row; each time is a choice of its own. -/
def Emit.atMost (emit : Emit) (greedy : Bool) : Nat → Emit
  | 0, next, code => (next, code)
  | n + 1, next, code =>
    let (rest, code) := Emit.atMost emit greedy n next code
    let (first, code) := emit rest code
    code.add (choice greedy first next)

/-- The part once or more often: its first instruction, the choice behind it, and the code. -/
def Emit.loop (emit : Emit) (greedy : Bool) (next : Nat) (code : Code) : Nat × Nat × Code :=
  let (again, code) := code.add .done
  let (first, code) := emit again code
  (first, again, code.set! again (choice greedy first next))

def Node.emit : Node → Emit
  | .empty, next, code => (next, code)
  | .oneOf set, next, code => code.add (.take set next)
  | .look condition, next, code => code.add (.look condition next)
  | .cat a b, next, code =>
    let (second, code) := b.emit next code
    a.emit second code
  | .alt a b, next, code =>
    let (first, code) := a.emit next code
    let (second, code) := b.emit next code
    code.add (.split first second)
  | .group n body, next, code =>
    let (close, code) := code.add (.save (2 * n + 1) next)
    let (first, code) := body.emit close code
    code.add (.save (2 * n) first)
  | .rounds body least most greedy, next, code =>
    match least, most with
    | 0, none =>
      let (first, again, code) := Emit.loop (fun n c => body.emit n c) greedy next code
      -- a body that can be empty is entered by a choice of its own
      if body.nullable then code.add (choice greedy first next) else (again, code)
    | least + 1, none =>
      let (first, _, code) := Emit.loop (fun n c => body.emit n c) greedy next code
      Emit.times (fun n c => body.emit n c) least first code
    | least, some most =>
      let (first, code) := Emit.atMost (fun n c => body.emit n c) greedy (most - least) next code
      Emit.times (fun n c => body.emit n c) least first code

/-- A program: its instructions, the first one, and the number of places it remembers. -/
structure Program where
  code : Code
  start : Nat
  slots : Nat

/-- The program of an expression; the whole match is group 0. -/
def Expression.program (e : Expression) : Program :=
  let (last, code) := Code.add #[] .done
  let (start, code) := (Node.group 0 e.node).emit last code
  ⟨code, start, 2 * e.groups⟩

end Harvest.Regex
