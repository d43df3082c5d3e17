import Harvest.XPath.Error
import Harvest.XPath.Step

/-!
What an evaluation reads from a document.

An evaluation sees a document through an access alone: where a step leads from a member, what a
member is called, and which string it stands for. An answer may be a failure of a type that belongs
to the access, so one evaluation serves a document whose numbers are trusted and one whose numbers
are checked when they are used.
-/

namespace Harvest.XPath

open Harvest.Markup

structure Access (ε : Type) where
  /-- The members that a step without its predicates leads to. -/
  candidates : Axis → NodeTest → Member → Except ε (List Member)
  stringValue : Member → Except ε String
  name : Member → Except ε String
  /-- What a function gets for an argument that it requires and that is not given, and for a part of
  a text that would be cut within a character or behind its end. -/
  missing : Except ε Value
  /-- The failure that reports a problem. -/
  problem : EvalProblem → ε

namespace Access

/-- The access that takes every number for a node of the document. -/
def trusting (d : Document) : Access EvalProblem where
  candidates axis test m := .ok (XPath.candidates d axis test m)
  stringValue m := .ok (m.stringValue d)
  name m := .ok (m.name d)
  missing := .ok (.truth false)
  problem := id

variable {ε : Type} (a : Access ε)

/-- A value as a string; a node-set counts by its first member. -/
def toText : Value → Except ε String
  | .nodes [] => .ok ""
  | .nodes (m :: _) => a.stringValue m
  | v => .ok v.atomText

/-- A value as a number; a node-set counts by the string of its first member. -/
def toNumber : Value → Except ε Float
  | .nodes members => readNumber <$> a.toText (.nodes members)
  | v => .ok v.atomNumber

end Access

end Harvest.XPath
