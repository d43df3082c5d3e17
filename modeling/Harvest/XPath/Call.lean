import Harvest.Text.Case
import Harvest.Text.Search
import Harvest.Text.Utf8
import Harvest.XPath.Access
import Harvest.XPath.Function

/-!
What the functions of XPath return.

A function is given the outcomes of its arguments. It looks at as many of them as it takes, from
left to right, and only then does a failed argument matter.
-/

namespace Harvest.XPath

open Harvest.Markup Harvest.Text

/-- The context of an evaluation: a member, its number among its fellows, and their count. -/
structure Focus where
  member : Member
  position : Nat
  size : Nat
  deriving DecidableEq, Repr

/-- The least and the greatest number of arguments. The greatest is none where there is no limit. -/
def Function.arity : Function → Nat × Option Nat
  | .last | .position | .true | .false => (0, some 0)
  | .string | .stringLength | .normalizeSpace | .number | .name | .localName => (0, some 1)
  | .count | .sum | .lowerCase | .upperCase | .not | .boolean | .floor | .ceiling | .round =>
    (1, some 1)
  | .contains | .startsWith | .endsWith | .substringBefore | .substringAfter => (2, some 2)
  | .substring => (2, some 3)
  | .translate => (3, some 3)
  | .concat => (2, none)

def Function.checkArity (f : Function) (name : String) (given : Nat) : Except EvalProblem Unit :=
  match f.arity with
  | (least, some most) =>
    if given < least || given > most then .error (.arity name least most given) else .ok ()
  | (least, none) => if given < least then .error .tooFewToConcat else .ok ()

/-- The nearest whole number, the greater one at a tie. -/
def roundHalfUp (x : Float) : Float := (x + 0.5).floor

/-- The characters whose numbers, counted from one, lie between the rounded start and the rounded
length after it. -/
def substring (s : String) (start : Float) (length : Option Float) : String :=
  let first := roundHalfUp start
  let last := match length with
    | some n => first + roundHalfUp n
    | none => 1.0 / 0.0
  String.ofList ((s.toList.zipIdx 1).filterMap fun (c, n) =>
    let position := Float.ofNat n
    if position >= first && position < last then some c else none)

/-- Every character that occurs in `source` replaced by its counterpart in `target`, or dropped
where there is none. -/
def translate (s source target : String) : String :=
  String.ofList (s.toList.filterMap fun c =>
    match source.toList.idxOf? c with
    | some i => target.toList[i]?
    | none => some c)

variable {ε : Type} (a : Access ε) (focus : Focus)

def required (args : List (Except ε Value)) (i : Nat) : Except ε Value := args[i]?.getD a.missing

/-- An argument as a string; the context stands in for one that is not given. -/
def textArg (args : List (Except ε Value)) (i : Nat) : Except ε String :=
  match args[i]? with
  | some arg => do a.toText (← arg)
  | none => a.stringValue focus.member

def numberArg (args : List (Except ε Value)) (i : Nat) : Except ε Float := do
  a.toNumber (← required a args i)

def truthArg (args : List (Except ε Value)) : Except ε Bool := do
  return (← required a args 0).toTruth

def nodesArg (name : String) (args : List (Except ε Value)) : Except ε (List Member) := do
  match ← required a args 0 with
  | .nodes members => return members
  | _ => throw (a.problem (.needsNodeSet name))

/-- The name of the first member of the first argument, empty where there is none; the context
stands in for an argument that is not given. -/
def nameArg (name : String) (args : List (Except ε Value)) : Except ε String :=
  if args.isEmpty then a.name focus.member
  else do
    let members ← nodesArg a name args
    match documentOrder members with
    | [] => return ""
    | m :: _ => a.name m

/-- The part of a text that is cut off at a place in it; empty where there is no such place. -/
def cutAt (part : Nat → Option (List Char)) : Option Nat → Except ε Value
  | none => .ok (.text "")
  | some place =>
    match part place with
    | some cs => .ok (.text (String.ofList cs))
    | none => a.missing

/-- Calls a function whose number of arguments is right. -/
def applyFunction (f : Function) (name : String) (args : List (Except ε Value)) : Except ε Value :=
  match f with
  | .last => .ok (.number (Float.ofNat focus.size))
  | .position => .ok (.number (Float.ofNat focus.position))
  | .count => do
    let members ← nodesArg a name args
    return .number (Float.ofNat members.length)
  | .sum => do
    let members ← nodesArg a name args
    let numbers ← members.mapM fun m => do return readNumber (← a.stringValue m)
    return .number (numbers.foldl (· + ·) (-0.0))
  | .string => .text <$> textArg a focus args 0
  | .concat => do
    let parts ← args.mapM fun arg => do a.toText (← arg)
    return .text (String.join parts)
  | .contains => do
    let hay ← textArg a focus args 0
    let needle ← textArg a focus args 1
    return .truth (containsText needle.toList hay.toList)
  | .startsWith => do
    let hay ← textArg a focus args 0
    let needle ← textArg a focus args 1
    return .truth (needle.toList.isPrefixOf hay.toList)
  | .endsWith => do
    let hay ← textArg a focus args 0
    let needle ← textArg a focus args 1
    return .truth (needle.toList.isSuffixOf hay.toList)
  | .substringBefore => do
    let hay ← textArg a focus args 0
    let needle ← textArg a focus args 1
    cutAt a (takeBytes? · hay.toList) (placeOf? needle.toList 0 hay.toList)
  | .substringAfter => do
    let hay ← textArg a focus args 0
    let needle ← textArg a focus args 1
    cutAt a (fun place => dropBytes? (place + byteSize needle.toList) hay.toList)
      (placeOf? needle.toList 0 hay.toList)
  | .substring => do
    let s ← textArg a focus args 0
    let start ← numberArg a args 1
    match args[2]? with
    | none => return .text (substring s start none)
    | some _ =>
      let length ← numberArg a args 2
      return .text (substring s start (some length))
  | .stringLength => do
    let s ← textArg a focus args 0
    return .number (Float.ofNat s.length)
  | .normalizeSpace => do
    let s ← textArg a focus args 0
    return .text (" ".intercalate ((words s.toList).map String.ofList))
  | .translate => do
    let s ← textArg a focus args 0
    let source ← textArg a focus args 1
    let target ← textArg a focus args 2
    return .text (translate s source target)
  | .lowerCase => (fun s => .text (lower s)) <$> textArg a focus args 0
  | .upperCase => (fun s => .text (upper s)) <$> textArg a focus args 0
  | .not => (fun b => .truth (!b)) <$> truthArg a args
  | .true => .ok (.truth true)
  | .false => .ok (.truth false)
  | .boolean => .truth <$> truthArg a args
  | .number =>
    if args.isEmpty then return .number (readNumber (← a.stringValue focus.member))
    else return .number (← numberArg a args 0)
  | .floor => (fun x => .number x.floor) <$> numberArg a args 0
  | .ceiling => (fun x => .number x.ceil) <$> numberArg a args 0
  | .round => (fun x => .number (roundHalfUp x)) <$> numberArg a args 0
  | .name => .text <$> nameArg a focus name args
  | .localName => do
    let qualified ← nameArg a focus name args
    return .text (match splitAtLast? ':' qualified.toList with
      | some (_, rest) => String.ofList rest
      | none => qualified)

def call (name : String) (args : List (Except ε Value)) : Except ε Value :=
  match Function.ofName? name with
  | none => .error (a.problem (.unknownFunction name))
  | some f => do
    (f.checkArity name args.length).mapError a.problem
    applyFunction a focus f name args

end Harvest.XPath
