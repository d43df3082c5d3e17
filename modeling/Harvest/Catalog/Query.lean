import Harvest.Text.Blank

/-!
Boolean queries over terms.

A query has a canonical text, a text for a search form, and a disjunctive normal form: a list of
conjunctions of terms and negated terms, one of which holds exactly when the query does.
-/

namespace Harvest

open Harvest.Text

inductive Query
  | term (text : String)
  | and (operands : List Query)
  | or (operands : List Query)
  | not (operand : Query)
  deriving Repr, Inhabited

namespace Query

/-- A term as it is written: between quotes if it holds a blank. -/
def quoteTerm (text : String) : String :=
  if text.toList.any isBlank then "\"" ++ text ++ "\"" else text

mutual

def text (q : Query) : String :=
  match q with
  | .term t => quoteTerm t
  | .and operands => "(" ++ join " AND " (texts operands) ++ ")"
  | .or operands => "(" ++ join " OR " (texts operands) ++ ")"
  | .not operand => "NOT " ++ operand.text

def texts (qs : List Query) : List String :=
  match qs with
  | [] => []
  | q :: qs => q.text :: texts qs

end

mutual

/-- The text for a search form: side by side for both, a hyphen for negation. -/
def formText (q : Query) : String :=
  match q with
  | .term t => quoteTerm t
  | .and operands => join " " (formTexts operands)
  | .or operands => "(" ++ join " OR " (formTexts operands) ++ ")"
  | .not operand => "-" ++ operand.formText

def formTexts (qs : List Query) : List String :=
  match qs with
  | [] => []
  | q :: qs => q.formText :: formTexts qs

end

mutual

def terms (q : Query) : List String :=
  match q with
  | .term t => [t]
  | .and operands => termsOf operands
  | .or operands => termsOf operands
  | .not operand => operand.terms

def termsOf (qs : List Query) : List String :=
  match qs with
  | [] => []
  | q :: qs => q.terms ++ termsOf qs

end

/-- Every member of the one list followed by every member of the other. -/
def products (as bs : List (List Query)) : List (List Query) :=
  as.flatMap fun a => bs.map fun b => a ++ b

mutual

/-- The conjunctions, as lists of literals, of a query or of its negation. -/
def expand (negated : Bool) (q : Query) : List (List Query) :=
  match q, negated with
  | .term t, false => [[.term t]]
  | .term t, true => [[.not (.term t)]]
  | .not operand, negated => operand.expand (!negated)
  | .or operands, false => expandAny false operands
  | .and operands, true => expandAny true operands
  | .and operands, false => expandAll false [[]] operands
  | .or operands, true => expandAll true [[]] operands

def expandAny (negated : Bool) (qs : List Query) : List (List Query) :=
  match qs with
  | [] => []
  | q :: qs => q.expand negated ++ expandAny negated qs

/-- Each conjunction so far followed by one of every operand. -/
def expandAll (negated : Bool) (sofar : List (List Query)) (qs : List Query) :
    List (List Query) :=
  match qs with
  | [] => sofar
  | q :: qs => expandAll negated (products sofar (q.expand negated)) qs

end

/-- Literals as one query; a single one stands for itself. -/
def ofLiterals : List Query → Query
  | [literal] => literal
  | literals => .and literals

/-- The disjunctive normal form. -/
def conjunctions (q : Query) : List Query := (q.expand false).map ofLiterals

end Query

end Harvest
