import Harvest.Markup.Subtree
import Harvest.Remainder
import Harvest.XPath.Call
import Harvest.XPath.Parser
import Harvest.XPath.Step

/-!
Evaluation of XPath expressions.

Evaluation follows the expression and asks an access for what it needs of the document. A step
visits the members it starts from in document order; its predicates number what the axis lists in
the order of the axis; and what the step finds is put in document order without repetition. The
first failure in that order is the failure of the whole.
-/

namespace Harvest.XPath

open Harvest.Markup

/-- Equality of two values that are no node-sets: as truth values if one is, else as numbers if
one is, else as texts. -/
def equalAtoms : Value → Value → Bool
  | .truth a, b => a == b.toTruth
  | a, .truth b => a.toTruth == b
  | .number a, b => a == b.atomNumber
  | a, .number b => a.atomNumber == b
  | .text a, .text b => a == b
  | _, _ => false

def compareAtoms (op : BinaryOp) (a b : Value) : Bool :=
  match op with
  | .eq => equalAtoms a b
  | .ne => !equalAtoms a b
  | .lt => a.atomNumber < b.atomNumber
  | .le => a.atomNumber ≤ b.atomNumber
  | .gt => a.atomNumber > b.atomNumber
  | _ => a.atomNumber ≥ b.atomNumber

variable {ε : Type} (a : Access ε)

/-- A member as a value of the same kind as `like`, which is no node-set. -/
def atomize (m : Member) (like : Value) : Except ε Value := do
  let content ← a.stringValue m
  return match like with
    | .number _ => .number (readNumber content)
    | _ => .text content

/-- Comparison of two values. A node-set compares as a truth value with a truth value, and else
holds if it holds for one of its members. -/
def compare (op : BinaryOp) : Value → Value → Except ε Bool
  | .nodes ms, .nodes ns => ms.anyM fun x => do
      let left ← a.stringValue x
      ns.anyM fun y => do return compareAtoms op (.text left) (.text (← a.stringValue y))
  | .nodes ms, .truth b => return compareAtoms op (.truth !ms.isEmpty) (.truth b)
  | .truth b, .nodes ns => return compareAtoms op (.truth b) (.truth !ns.isEmpty)
  | .nodes ms, atom => ms.anyM fun x => do return compareAtoms op (← atomize a x atom) atom
  | atom, .nodes ns => ns.anyM fun y => do return compareAtoms op atom (← atomize a y atom)
  | v, w => return compareAtoms op v w

/-- An operator on the outcomes of its operands; the logical ones look at the right operand only
where the left one leaves the answer open. -/
def applyBinary (op : BinaryOp) (left right : Except ε Value) : Except ε Value :=
  match op with
  | .or => do
    let l ← left
    if l.toTruth then return .truth true
    let r ← right
    return .truth r.toTruth
  | .and => do
    let l ← left
    if !l.toTruth then return .truth false
    let r ← right
    return .truth r.toTruth
  | .add => arithmetic (· + ·)
  | .sub => arithmetic (· - ·)
  | .mul => arithmetic (· * ·)
  | .div => arithmetic (· / ·)
  | .mod => arithmetic remainder
  | _ => do
    let l ← left
    let r ← right
    return .truth (← compare a op l r)
where
  arithmetic (f : Float → Float → Float) : Except ε Value := do
    let x ← a.toNumber (← left)
    let y ← a.toNumber (← right)
    return .number (f x y)

/-- Whether a predicate with that value keeps the member at that position. -/
def keeps (position : Nat) : Value → Bool
  | .number x => x == Float.ofNat position
  | v => v.toTruth

/-- The members for which `test` returns a value that keeps them, numbered from one in the order
given. -/
def selectMembers (test : Focus → Except ε Value) (members : List Member) : Except ε (List Member) :=
  go members.length 1 members
where
  go (size position : Nat) : List Member → Except ε (List Member)
    | [] => .ok []
    | m :: ms => do
      let v ← test ⟨m, position, size⟩
      let rest ← go size (position + 1) ms
      return if keeps position v then m :: rest else rest

/-- What `visit` finds from each member, in document order. -/
def visitAll (visit : Member → Except ε (List Member)) (members : List Member) :
    Except ε (List Member) := do
  let found ← members.mapM visit
  return documentOrder found.flatten

namespace Access

mutual

def eval (e : Expr) (focus : Focus) : Except ε Value :=
  match e with
  | .literal content => .ok (.text content)
  | .number x => .ok (.number x)
  | .negate operand => do
    let v ← eval operand focus
    return .number (-(← a.toNumber v))
  | .binary op left right => applyBinary a op (eval left focus) (eval right focus)
  | .union left right => do
    let l ← eval left focus
    let r ← eval right focus
    match l, r with
    | .nodes ms, .nodes ns => return .nodes (documentOrder (ms ++ ns))
    | _, _ => throw (a.problem .unionOfValues)
  | .function name args => call a focus name (evalArgs args focus)
  | .path absolute steps => do
    return .nodes (← walk steps [if absolute then .node 0 else focus.member])
  | .filter primary predicates steps => do
    match ← eval primary focus with
    | .nodes members =>
      let kept ← narrow predicates (documentOrder members)
      return .nodes (← walk steps kept)
    | _ => throw (a.problem .stepsOnValue)

def evalArgs (args : List Expr) (focus : Focus) : List (Except ε Value) :=
  match args with
  | [] => []
  | arg :: args => eval arg focus :: evalArgs args focus

/-- The members that pass every predicate; each predicate numbers what the one before it left. -/
def narrow (predicates : List Expr) (members : List Member) : Except ε (List Member) :=
  match predicates with
  | [] => .ok members
  | p :: ps => do
    let kept ← selectMembers (fun focus => eval p focus) members
    narrow ps kept

def walk (steps : List Step) (members : List Member) : Except ε (List Member) :=
  match steps with
  | [] => .ok members
  | .mk axis test predicates :: rest => do
    let found ← visitAll (fun m => do narrow predicates (← a.candidates axis test m)) members
    walk rest found

end

end Access

def eval (d : Document) (e : Expr) (focus : Focus) : Except EvalProblem Value :=
  (Access.trusting d).eval e focus

structure Compiled where
  source : String
  expr : Expr

namespace Compiled

def ofText (source : String) : Except Error Compiled := (parse source).map (⟨source, ·⟩)

/-- The value of the expression with a node as its context. -/
def evaluate (x : Compiled) (context : NodeRef) : Except Error Value :=
  (eval context.document x.expr ⟨.node context.id, 1, 1⟩).mapError .evaluation

def evaluateText (x : Compiled) (context : NodeRef) : Except Error String :=
  (x.evaluate context).map (·.toText context.document)

/-- The tree nodes of the node-set that is the value; attributes are left out. -/
def select (x : Compiled) (context : NodeRef) : Except Error (List NodeRef) := do
  match ← x.evaluate context with
  | .nodes members => return members.filterMap fun
    | .node id => some ⟨context.document, id⟩
    | .attr _ _ => none
  | v => throw (.evaluation (.selectsNothing x.source v.typeName))

end Compiled

end Harvest.XPath
