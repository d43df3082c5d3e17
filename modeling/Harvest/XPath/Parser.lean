import Harvest.Text.Blank
import Harvest.XPath.Expr
import Harvest.XPath.Function
import Harvest.XPath.Token

/-!
From tokens to expressions.

```text
or             = and { "or" and }
and            = equality { "and" equality }
equality       = relational { ("=" | "!=") relational }
relational     = additive { ("<" | "<=" | ">" | ">=") additive }
additive       = multiplicative { ("+" | "-") multiplicative }
multiplicative = unary { ("*" | "div" | "mod") unary }
unary          = "-" unary | path { "|" path }
path           = primary predicates steps | "/" [ step steps ] | "//" step steps | step steps
primary        = literal | number | "(" or ")" | function "(" [ or { "," or } ] ")"
predicates     = { "[" or "]" }
steps          = { ("/" | "//") step }
step           = "." | ".." | [ "@" | axis "::" ] test predicates
test           = "*" | name | type "(" [ literal ] ")"
```

The levels of binary operators associate to the left. Every function below returns what it has left
over together with the fact that this is shorter, which is why reading ends.
-/

namespace Harvest.XPath

open Harvest.Text

/-- Why no expression could be read, and the byte offset of the token at fault; none where the
tokens end too early. -/
structure Fault where
  position : Option Nat
  problem : SyntaxProblem
  deriving DecidableEq, Repr

def Fault.at (ts : List Placed) (problem : SyntaxProblem) : Fault :=
  ⟨ts.head?.map (·.offset), problem⟩

/-- Tokens left over after at least one was taken. -/
abbrev Shorter (ts : List Placed) := { r : List Placed // r.length < ts.length }

abbrev NoLonger (ts : List Placed) := { r : List Placed // r.length ≤ ts.length }

/-- The levels of binary operators, the one that binds least first. -/
inductive Level
  | or | and | equality | relational | additive | multiplicative
  deriving DecidableEq, Repr

def Level.next? : Level → Option Level
  | .or => some .and
  | .and => some .equality
  | .equality => some .relational
  | .relational => some .additive
  | .additive => some .multiplicative
  | .multiplicative => none

/-- The number of levels that bind more tightly. -/
def Level.depth : Level → Nat
  | .or => 5
  | .and => 4
  | .equality => 3
  | .relational => 2
  | .additive => 1
  | .multiplicative => 0

def Level.operator? : Level → Token → Option BinaryOp
  | .or, .or => some .or
  | .and, .and => some .and
  | .equality, .eq => some .eq
  | .equality, .ne => some .ne
  | .relational, .le => some .le
  | .relational, .lt => some .lt
  | .relational, .ge => some .ge
  | .relational, .gt => some .gt
  | .additive, .plus => some .add
  | .additive, .minus => some .sub
  | .multiplicative, .times => some .mul
  | .multiplicative, .div => some .div
  | .multiplicative, .mod => some .mod
  | _, _ => none

theorem Level.depth_next {l m : Level} (h : l.next? = some m) : m.depth < l.depth := by
  cases l <;> simp [Level.next?] at h <;> subst h <;> simp [Level.depth]

def Token.beginsStep : Token → Bool
  | .dot | .dotDot | .at | .star | .name _ | .nodeType _ | .axisName _ => true
  | _ => false

def beginsStep : List Placed → Bool
  | [] => false
  | t :: _ => t.token.beginsStep

def Token.beginsPrimary : Token → Bool
  | .literal _ | .number _ | .openParen | .functionName _ => true
  | _ => false

def NodeTest.ofName (text : String) : NodeTest :=
  match text.toList.reverse with
  | '*' :: ':' :: rest => .qualifier (lowerAscii (String.ofList rest.reverse))
  | _ => .name (lowerAscii text)

/-- The test that a node type stands for; no node is a processing instruction. -/
def NodeTest.ofType : String → NodeTest
  | "text" => .text
  | "comment" => .comment
  | "node" => .node
  | _ => .name ""

/-- Takes one given token, described by `what` if it is missing. -/
def expect (token : Token) (what : String) (ts : List Placed) : Except Fault (Shorter ts) :=
  match ts with
  | [] => .error (.at [] (.expected what))
  | t :: rest =>
    if t.token == token then .ok ⟨rest, by simp⟩ else .error (.at (t :: rest) (.expected what))

/-- The axis of a step and the tokens after it, with the offset of the last token before those. -/
def parseAxis (last : Nat) (ts : List Placed) : Except Fault (Axis × Nat × NoLonger ts) :=
  match ts with
  | ⟨.at, offset⟩ :: rest => .ok (.attributes, offset, ⟨rest, by simp⟩)
  | ⟨.axisName name, offset⟩ :: rest =>
    match Axis.ofName? name with
    | some axis => .ok (axis, offset, ⟨rest, by simp⟩)
    | none => .error ⟨some offset, .unknownAxis name⟩
  | ts => .ok (.child, last, ⟨ts, Nat.le_refl _⟩)

/-- The node test of a step. Where the tokens end, the fault lies with the last one before. -/
def parseTest (last : Nat) (ts : List Placed) : Except Fault (NodeTest × Shorter ts) :=
  match ts with
  | ⟨.star, _⟩ :: rest => .ok (.any, ⟨rest, by simp⟩)
  | ⟨.name text, _⟩ :: rest => .ok (.ofName text, ⟨rest, by simp⟩)
  | ⟨.nodeType kind, _⟩ :: rest => do
    let ⟨r₁, h₁⟩ ← expect .openParen "'('" rest
    let ⟨r₂, h₂⟩ : NoLonger r₁ := match r₁ with
      | ⟨.literal _, _⟩ :: r => ⟨r, by simp⟩
      | r => ⟨r, Nat.le_refl _⟩
    let ⟨r₃, h₃⟩ ← expect .closeParen "')'" r₂
    return (.ofType kind, ⟨r₃, by simp only [List.length_cons]; omega⟩)
  | [] => .error ⟨some last, .expected "a node test"⟩
  | ts => .error (.at ts (.expected "a node test"))

mutual

/-- An operand of a level with the operators of that level that follow it. -/
def parseLevel (level : Level) (ts : List Placed) : Except Fault (Expr × Shorter ts) :=
  match _h : level.next? with
  | some next => do
    let (left, ⟨r₁, h₁⟩) ← parseLevel next ts
    let (e, ⟨r₂, h₂⟩) ← parseOperators level left r₁
    return (e, ⟨r₂, by omega⟩)
  | none => do
    let (left, ⟨r₁, h₁⟩) ← parseUnary ts
    let (e, ⟨r₂, h₂⟩) ← parseOperators level left r₁
    return (e, ⟨r₂, by omega⟩)
  termination_by (ts.length, 20 + level.depth)
  decreasing_by
    · have := Level.depth_next _h
      exact Prod.Lex.right _ (by omega)
    · exact Prod.Lex.left _ _ (by omega)
    · exact Prod.Lex.right _ (by omega)
    · exact Prod.Lex.left _ _ (by omega)

/-- The operators of a level that follow `left`, each with its right operand. -/
def parseOperators (level : Level) (left : Expr) (ts : List Placed) :
    Except Fault (Expr × NoLonger ts) :=
  match ts with
  | [] => .ok (left, ⟨[], Nat.le_refl _⟩)
  | t :: rest =>
    match level.operator? t.token with
    | none => .ok (left, ⟨t :: rest, Nat.le_refl _⟩)
    | some op =>
      match _h : level.next? with
      | some next => do
        let (right, ⟨r₁, h₁⟩) ← parseLevel next rest
        let (e, ⟨r₂, h₂⟩) ← parseOperators level (.binary op left right) r₁
        return (e, ⟨r₂, by simp only [List.length_cons]; omega⟩)
      | none => do
        let (right, ⟨r₁, h₁⟩) ← parseUnary rest
        let (e, ⟨r₂, h₂⟩) ← parseOperators level (.binary op left right) r₁
        return (e, ⟨r₂, by simp only [List.length_cons]; omega⟩)
  termination_by (ts.length, 0)
  decreasing_by all_goals exact Prod.Lex.left _ _ (by simp only [List.length_cons]; omega)

/-- Minus signs before a union. -/
def parseUnary (ts : List Placed) : Except Fault (Expr × Shorter ts) :=
  match ts with
  | ⟨.minus, _⟩ :: rest => do
    let (operand, ⟨r, h⟩) ← parseUnary rest
    return (.negate operand, ⟨r, by simp only [List.length_cons]; omega⟩)
  | ts => do
    let (left, ⟨r₁, h₁⟩) ← parsePath ts
    let (e, ⟨r₂, h₂⟩) ← parseUnion left r₁
    return (e, ⟨r₂, by omega⟩)
  termination_by (ts.length, 12)
  decreasing_by
    · exact Prod.Lex.left _ _ (by simp)
    · exact Prod.Lex.right _ (by omega)
    · exact Prod.Lex.left _ _ (by omega)

/-- The further members of a union. -/
def parseUnion (left : Expr) (ts : List Placed) : Except Fault (Expr × NoLonger ts) :=
  match ts with
  | ⟨.pipe, _⟩ :: rest => do
    let (right, ⟨r₁, h₁⟩) ← parsePath rest
    let (e, ⟨r₂, h₂⟩) ← parseUnion (.union left right) r₁
    return (e, ⟨r₂, by simp only [List.length_cons]; omega⟩)
  | ts => .ok (left, ⟨ts, Nat.le_refl _⟩)
  termination_by (ts.length, 0)
  decreasing_by
    · exact Prod.Lex.left _ _ (by simp)
    · exact Prod.Lex.left _ _ (by simp only [List.length_cons]; omega)

/-- A filtered primary expression or a location path, as the first token tells. -/
def parsePath (ts : List Placed) : Except Fault (Expr × Shorter ts) :=
  match ts with
  | t :: rest =>
    if t.token.beginsPrimary then parseFilter (t :: rest) else parseLocation (t :: rest)
  | [] => parseLocation []
  termination_by (ts.length, 10)
  decreasing_by all_goals exact Prod.Lex.right _ (by omega)

/-- A primary expression with its predicates and the steps after it. -/
def parseFilter (ts : List Placed) : Except Fault (Expr × Shorter ts) := do
  let (primary, ⟨r₁, h₁⟩) ← parsePrimary ts
  let (predicates, ⟨r₂, h₂⟩) ← parsePredicates r₁
  let (steps, ⟨r₃, h₃⟩) ← parseSteps r₂
  let e := if predicates.isEmpty && steps.isEmpty then primary
    else .filter primary predicates steps
  return (e, ⟨r₃, by omega⟩)
  termination_by (ts.length, 8)
  decreasing_by
    · exact Prod.Lex.right _ (by omega)
    · exact Prod.Lex.left _ _ (by omega)
    · exact Prod.Lex.left _ _ (by omega)

/-- A literal, a number, an expression in parentheses or a function call. -/
def parsePrimary (ts : List Placed) : Except Fault (Expr × Shorter ts) :=
  match ts with
  | ⟨.literal content, _⟩ :: rest => .ok (.literal content, ⟨rest, by simp⟩)
  | ⟨.number value, _⟩ :: rest => .ok (.number value, ⟨rest, by simp⟩)
  | ⟨.openParen, _⟩ :: rest => do
    let (inner, ⟨r₁, h₁⟩) ← parseLevel .or rest
    let ⟨r₂, h₂⟩ ← expect .closeParen "')'" r₁
    return (inner, ⟨r₂, by simp only [List.length_cons]; omega⟩)
  | ⟨.functionName name, offset⟩ :: rest => do
    if functionNames.contains name then
      let ⟨r₁, h₁⟩ ← expect .openParen "'('" rest
      let (args, ⟨r₂, h₂⟩) ← parseArgs r₁
      return (.function name args, ⟨r₂, by simp only [List.length_cons]; omega⟩)
    else
      throw ⟨some offset, .unknownFunction name⟩
  | ts => .error (.at ts (.expected "an expression"))
  termination_by (ts.length, 6)
  decreasing_by all_goals exact Prod.Lex.left _ _ (by simp only [List.length_cons]; omega)

/-- The arguments of a call up to its closing parenthesis, which may come at once. -/
def parseArgs (ts : List Placed) : Except Fault (List Expr × Shorter ts) :=
  match ts with
  | ⟨.closeParen, _⟩ :: rest => .ok ([], ⟨rest, by simp⟩)
  | ts => parseArgList ts
  termination_by (ts.length, 30)
  decreasing_by exact Prod.Lex.right _ (by omega)

/-- One or more arguments up to the closing parenthesis. -/
def parseArgList (ts : List Placed) : Except Fault (List Expr × Shorter ts) := do
  let (arg, ⟨r₁, h₁⟩) ← parseLevel .or ts
  match r₁, h₁ with
  | ⟨.closeParen, _⟩ :: rest, h₁ =>
    return ([arg], ⟨rest, by simp only [List.length_cons] at h₁; omega⟩)
  | r₁, h₁ => do
    let ⟨r₂, h₂⟩ ← expect .comma "',' or ')'" r₁
    let (args, ⟨r₃, h₃⟩) ← parseArgList r₂
    return (arg :: args, ⟨r₃, by omega⟩)
  termination_by (ts.length, 29)
  decreasing_by
    · exact Prod.Lex.right _ (by simp [Level.depth])
    · exact Prod.Lex.left _ _ (by omega)

def parsePredicates (ts : List Placed) : Except Fault (List Expr × NoLonger ts) :=
  match ts with
  | ⟨.openBracket, _⟩ :: rest => do
    let (predicate, ⟨r₁, h₁⟩) ← parseLevel .or rest
    let ⟨r₂, h₂⟩ ← expect .closeBracket "']'" r₁
    let (predicates, ⟨r₃, h₃⟩) ← parsePredicates r₂
    return (predicate :: predicates, ⟨r₃, by simp only [List.length_cons]; omega⟩)
  | ts => .ok ([], ⟨ts, Nat.le_refl _⟩)
  termination_by (ts.length, 0)
  decreasing_by
    · exact Prod.Lex.left _ _ (by simp)
    · exact Prod.Lex.left _ _ (by simp only [List.length_cons]; omega)

def parseLocation (ts : List Placed) : Except Fault (Expr × Shorter ts) :=
  match ts with
  | ⟨.slash, offset⟩ :: rest => do
    if beginsStep rest then
      let (step, ⟨r₁, h₁⟩) ← parseStep offset rest
      let (steps, ⟨r₂, h₂⟩) ← parseSteps r₁
      return (.path true (step :: steps), ⟨r₂, by simp only [List.length_cons]; omega⟩)
    else
      return (.path true [], ⟨rest, by simp⟩)
  | ⟨.doubleSlash, offset⟩ :: rest => do
    let (step, ⟨r₁, h₁⟩) ← parseStep offset rest
    let (steps, ⟨r₂, h₂⟩) ← parseSteps r₁
    return (.path true (.anyDepth :: step :: steps),
      ⟨r₂, by simp only [List.length_cons]; omega⟩)
  | ts => do
    if beginsStep ts then
      let (step, ⟨r₁, h₁⟩) ← parseStep 0 ts
      let (steps, ⟨r₂, h₂⟩) ← parseSteps r₁
      return (.path false (step :: steps), ⟨r₂, by omega⟩)
    else
      throw (.at ts (.expected "a location step"))
  termination_by (ts.length, 8)
  decreasing_by
    · exact Prod.Lex.left _ _ (by simp)
    · exact Prod.Lex.left _ _ (by simp only [List.length_cons]; omega)
    · exact Prod.Lex.left _ _ (by simp)
    · exact Prod.Lex.left _ _ (by simp only [List.length_cons]; omega)
    · exact Prod.Lex.right _ (by omega)
    · exact Prod.Lex.left _ _ (by omega)

/-- The separators and steps that follow a step. -/
def parseSteps (ts : List Placed) : Except Fault (List Step × NoLonger ts) :=
  match ts with
  | ⟨.slash, offset⟩ :: rest => do
    let (step, ⟨r₁, h₁⟩) ← parseStep offset rest
    let (steps, ⟨r₂, h₂⟩) ← parseSteps r₁
    return (step :: steps, ⟨r₂, by simp only [List.length_cons]; omega⟩)
  | ⟨.doubleSlash, offset⟩ :: rest => do
    let (step, ⟨r₁, h₁⟩) ← parseStep offset rest
    let (steps, ⟨r₂, h₂⟩) ← parseSteps r₁
    return (.anyDepth :: step :: steps, ⟨r₂, by simp only [List.length_cons]; omega⟩)
  | ts => .ok ([], ⟨ts, Nat.le_refl _⟩)
  termination_by (ts.length, 0)
  decreasing_by
    all_goals exact Prod.Lex.left _ _ (by simp only [List.length_cons]; omega)

/-- One step; `last` is the offset of the token before it. -/
def parseStep (last : Nat) (ts : List Placed) : Except Fault (Step × Shorter ts) :=
  match ts with
  | ⟨.dot, _⟩ :: rest => .ok (.here, ⟨rest, by simp⟩)
  | ⟨.dotDot, _⟩ :: rest => .ok (.up, ⟨rest, by simp⟩)
  | ts => do
    let (axis, last, ⟨r₁, h₁⟩) ← parseAxis last ts
    let (test, ⟨r₂, h₂⟩) ← parseTest last r₁
    let (predicates, ⟨r₃, h₃⟩) ← parsePredicates r₂
    return (.mk axis test predicates, ⟨r₃, by omega⟩)
  termination_by (ts.length, 6)
  decreasing_by exact Prod.Lex.left _ _ (by omega)

end

def parseTokens (ts : List Placed) : Except Fault Expr :=
  if ts.isEmpty then .error (.at [] .emptyExpression)
  else do
    let (e, ⟨rest, _⟩) ← parseLevel .or ts
    if rest.isEmpty then return e else throw (.at rest .trailingInput)

def parse (source : String) : Except Error Expr :=
  match tokenize source with
  | .error (position, problem) => .error (.syntaxError source position problem)
  | .ok ts =>
    match parseTokens ts with
    | .error fault =>
      .error (.syntaxError source (fault.position.getD source.utf8ByteSize) fault.problem)
    | .ok e => .ok e

end Harvest.XPath
