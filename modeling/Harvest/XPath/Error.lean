/-!
What can go wrong with an XPath expression: when it is read and when it is evaluated.
-/

namespace Harvest.XPath

inductive SyntaxProblem
  | unterminatedLiteral
  | unexpectedCharacter (c : Char)
  | expectedOperator (found : String)
  | emptyExpression
  | trailingInput
  | expected (what : String)
  | unknownFunction (name : String)
  | unknownAxis (name : String)
  deriving DecidableEq, Repr

inductive EvalProblem
  | arity (function : String) (least most given : Nat)
  | tooFewToConcat
  | needsNodeSet (function : String)
  | unionOfValues
  | stepsOnValue
  | unknownFunction (name : String)
  | selectsNothing (source typeName : String)
  deriving DecidableEq, Repr

/-- An expression that cannot be read, with the byte offset of the fault, or one that cannot be
evaluated. -/
inductive Error
  | syntaxError (source : String) (position : Nat) (problem : SyntaxProblem)
  | evaluation (problem : EvalProblem)
  deriving DecidableEq, Repr

def SyntaxProblem.message : SyntaxProblem → String
  | .unterminatedLiteral => "unterminated string literal"
  | .unexpectedCharacter c => "unexpected character '" ++ c.toString ++ "'"
  | .expectedOperator found => "expected an operator, found '" ++ found ++ "'"
  | .emptyExpression => "empty expression"
  | .trailingInput => "unexpected trailing input"
  | .expected what => "expected " ++ what
  | .unknownFunction name => "unknown function '" ++ name ++ "'"
  | .unknownAxis name => "unknown axis '" ++ name ++ "'"

def EvalProblem.message : EvalProblem → String
  | .arity function least most given =>
    function ++ "() takes " ++ toString least ++ "..=" ++ toString most ++ " arguments, got " ++
      toString given
  | .tooFewToConcat => "concat() takes at least 2 arguments"
  | .needsNodeSet function => function ++ "() needs a node-set"
  | .unionOfValues => "'|' needs node-sets on both sides"
  | .stepsOnValue => "predicates and steps need a node-set"
  | .unknownFunction name => "unknown function '" ++ name ++ "'"
  | .selectsNothing source typeName =>
    "'" ++ source ++ "' does not select nodes (got " ++ typeName ++ ")"

def Error.message : Error → String
  | .syntaxError source position problem =>
    "XPath syntax error in '" ++ source ++ "' at " ++ toString position ++ ": " ++ problem.message
  | .evaluation problem => "XPath evaluation error: " ++ problem.message

end Harvest.XPath
