import Harvest.Decimal
import Harvest.Text.Blank
import Harvest.Text.Letter
import Harvest.XPath.Error

/-!
Tokens of XPath expressions.

An asterisk and the names `and`, `or`, `div` and `mod` are operators exactly where an operand has
just ended; elsewhere they are name tests. A name before an opening parenthesis is a function or a
node type, a name before a double colon an axis.
-/

namespace Harvest.XPath

open Harvest.Text

inductive Token
  | slash | doubleSlash | dot | dotDot | at | comma
  | openParen | closeParen | openBracket | closeBracket
  | pipe | plus | minus | eq | ne | lt | le | gt | ge
  | times | and | or | div | mod
  /-- An asterisk as a name test. -/
  | star
  | literal (content : String)
  | number (value : Float)
  /-- A name test: a name, a qualified name, or a qualifier with an asterisk. -/
  | name (text : String)
  | functionName (text : String)
  | nodeType (text : String)
  | axisName (text : String)
  deriving BEq, Repr, Inhabited

structure Placed where
  token : Token
  offset : Nat
  deriving BEq, Repr, Inhabited

/-- Whether an operand can end with the token, so that an operator must follow. -/
def Token.endsOperand : Token → Bool
  | .dot | .dotDot | .closeParen | .closeBracket | .star
  | .literal _ | .number _ | .name _ | .functionName _ | .nodeType _ => true
  | _ => false

def isNameStart (c : Char) : Bool := isAlphabetic c || c == '_'

def isNameChar (c : Char) : Bool := isAlphanumeric c || c == '_' || c == '-' || c == '.'

/-- The digits of a number at the head of a text, with at most one point among them. -/
def numberPart (seenPoint : Bool) : List Char → List Char
  | [] => []
  | c :: cs =>
    if isAsciiDigit c then c :: numberPart seenPoint cs
    else if c == '.' && !seenPoint then c :: numberPart true cs
    else []

/-- The name at the head of a text: a name, or two joined by a colon, the second of which may be an
asterisk. -/
def namePart (cs : List Char) : List Char :=
  let first := cs.takeWhile isNameChar
  match cs.drop first.length with
  | ':' :: '*' :: _ => first ++ [':', '*']
  | ':' :: c :: rest =>
    if isNameStart c then first ++ ':' :: (c :: rest).takeWhile isNameChar else first
  | _ => first

/-- The operator that a name stands for where an operator must follow. -/
def operatorName? : String → Option Token
  | "and" => some .and
  | "or" => some .or
  | "div" => some .div
  | "mod" => some .mod
  | _ => none

def isNodeTypeName (name : String) : Bool :=
  name == "text" || name == "node" || name == "comment" || name == "processing-instruction"

/-- What a name is by what follows it, with the number of further characters that belong to it. -/
def classifyName (name : String) (after : List Char) : Token × Nat :=
  let blanks := (after.takeWhile isBlank).length
  match after.drop blanks with
  | ':' :: ':' :: _ => (.axisName name, blanks + 2)
  | '(' :: _ => (if isNodeTypeName name then .nodeType name else .functionName name, 0)
  | _ => (.name name, 0)

/-- Reads the token that begins with `c` and goes on in `cs`, with the number of characters it
takes of `cs`. -/
def readToken (afterOperand : Bool) (c : Char) (cs : List Char) :
    Except SyntaxProblem (Token × Nat) :=
  match c, cs with
  | '/', '/' :: _ => .ok (.doubleSlash, 1)
  | '/', _ => .ok (.slash, 0)
  | '.', '.' :: _ => .ok (.dotDot, 1)
  | '.', d :: _ =>
    if isAsciiDigit d then
      let digits := numberPart false (c :: cs)
      .ok (.number (Decimal.readDigits digits), digits.length - 1)
    else .ok (.dot, 0)
  | '.', [] => .ok (.dot, 0)
  | '@', _ => .ok (.at, 0)
  | ',', _ => .ok (.comma, 0)
  | '(', _ => .ok (.openParen, 0)
  | ')', _ => .ok (.closeParen, 0)
  | '[', _ => .ok (.openBracket, 0)
  | ']', _ => .ok (.closeBracket, 0)
  | '|', _ => .ok (.pipe, 0)
  | '+', _ => .ok (.plus, 0)
  | '-', _ => .ok (.minus, 0)
  | '=', _ => .ok (.eq, 0)
  | '!', '=' :: _ => .ok (.ne, 1)
  | '<', '=' :: _ => .ok (.le, 1)
  | '<', _ => .ok (.lt, 0)
  | '>', '=' :: _ => .ok (.ge, 1)
  | '>', _ => .ok (.gt, 0)
  | '*', _ => .ok (if afterOperand then .times else .star, 0)
  | _, _ =>
    if c == '"' || c == '\'' then
      let content := cs.takeWhile (· != c)
      if content.length < cs.length then .ok (.literal (String.ofList content), content.length + 1)
      else .error .unterminatedLiteral
    else if isAsciiDigit c then
      let digits := numberPart false (c :: cs)
      .ok (.number (Decimal.readDigits digits), digits.length - 1)
    else if isNameStart c then
      let chars := namePart (c :: cs)
      let name := String.ofList chars
      let taken := chars.length - 1
      if afterOperand then
        match operatorName? name with
        | some op => .ok (op, taken)
        | none => .error (.expectedOperator name)
      else
        let (token, more) := classifyName name (cs.drop taken)
        .ok (token, taken + more)
    else .error (.unexpectedCharacter c)

def tokensFrom (afterOperand : Bool) (offset : Nat) :
    List Char → Except (Nat × SyntaxProblem) (List Placed)
  | [] => .ok []
  | c :: cs =>
    if isBlank c then tokensFrom afterOperand (offset + c.utf8Size) cs
    else
      match readToken afterOperand c cs with
      | .error problem => .error (offset, problem)
      | .ok (token, taken) =>
        match tokensFrom token.endsOperand (offset + byteSize (c :: cs.take taken))
            (cs.drop taken) with
        | .error fault => .error fault
        | .ok rest => .ok (⟨token, offset⟩ :: rest)
  termination_by cs => cs.length
  decreasing_by
    · simp
    · simp only [List.length_drop, List.length_cons]
      omega

/-- The tokens of an expression, or the byte offset where no token can be read. -/
def tokenize (source : String) : Except (Nat × SyntaxProblem) (List Placed) :=
  tokensFrom false 0 source.toList

end Harvest.XPath
