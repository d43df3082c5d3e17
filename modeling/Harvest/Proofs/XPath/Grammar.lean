import Harvest.XPath.Parser

/-!
The grammar of expressions, as a relation between token lists and the trees they
stand for.

```text
expr       = and { "or" and }
and        = equality { "and" equality }
equality   = relational { ("=" | "!=") relational }
relational = additive { ("<" | "<=" | ">" | ">=") additive }
additive   = multiply { ("+" | "-") multiply }
multiply   = unary { ("*" | "div" | "mod") unary }
unary      = { "-" } union
union      = path { "|" path }
path       = location | filter [ ("/" | "//") relative ]
filter     = primary { predicate }
primary    = "(" expr ")" | literal | number | function "(" args ")"
location   = "/" [ relative ] | "//" relative | relative
relative   = step { ("/" | "//") step }
step       = [ axis ] test { predicate } | "." | ".."
```

Each production is a constructor. Nothing here mentions what is left over, which
token comes next or how far reading has got; that the parser decides these
things rightly is what soundness and completeness say.
-/

namespace Harvest.XPath.Grammar

open Harvest.Text

inductive Operator : Level → Token → BinaryOp → Prop
  | or : Operator .or .or .or
  | and : Operator .and .and .and
  | eq : Operator .equality .eq .eq
  | ne : Operator .equality .ne .ne
  | lt : Operator .relational .lt .lt
  | le : Operator .relational .le .le
  | gt : Operator .relational .gt .gt
  | ge : Operator .relational .ge .ge
  | add : Operator .additive .plus .add
  | sub : Operator .additive .minus .sub
  | mul : Operator .multiplicative .times .mul
  | div : Operator .multiplicative .div .div
  | mod : Operator .multiplicative .mod .mod

inductive Precedes : Level → Level → Prop
  | or_and : Precedes .or .and
  | and_equality : Precedes .and .equality
  | equality_relational : Precedes .equality .relational
  | relational_additive : Precedes .relational .additive
  | additive_multiplicative : Precedes .additive .multiplicative

inductive AxisName : String → Axis → Prop
  | child : AxisName "child" .child
  | descendant : AxisName "descendant" .descendant
  | descendantOrSelf : AxisName "descendant-or-self" .descendantOrSelf
  | parent : AxisName "parent" .parent
  | ancestor : AxisName "ancestor" .ancestor
  | ancestorOrSelf : AxisName "ancestor-or-self" .ancestorOrSelf
  | self : AxisName "self" .self
  | attribute : AxisName "attribute" .attributes
  | followingSibling : AxisName "following-sibling" .followingSibling
  | precedingSibling : AxisName "preceding-sibling" .precedingSibling
  | following : AxisName "following" .following
  | preceding : AxisName "preceding" .preceding

/-- An axis before a test; a missing one is the child axis. -/
inductive AxisPart : List Token → Axis → Prop
  | missing : AxisPart [] .child
  | sign : AxisPart [.at] .attributes
  | named {name : String} {axis : Axis} (h : AxisName name axis) :
      AxisPart [.axisName name] axis

/-- What each node type tests for; a type without nodes accepts nothing. -/
inductive TypeTest : String → NodeTest → Prop
  | text : TypeTest "text" .text
  | comment : TypeTest "comment" .comment
  | node : TypeTest "node" .node
  | other {kind : String} (ht : kind ≠ "text") (hc : kind ≠ "comment") (hn : kind ≠ "node") :
      TypeTest kind (.name "")

inductive TypeArgument : List Token → Prop
  | none : TypeArgument []
  | literal (content : String) : TypeArgument [.literal content]

inductive Test : List Token → NodeTest → Prop
  | any : Test [.star] .any
  | qualifier (before : String) :
      Test [.name (before ++ ":*")] (.qualifier (lowerAscii before))
  | name {text : String} (h : ∀ before, text ≠ before ++ ":*") :
      Test [.name text] (.name (lowerAscii text))
  | type {kind : String} {test : NodeTest} {ts : List Token} (h : TypeTest kind test)
      (ha : TypeArgument ts) : Test (.nodeType kind :: .openParen :: ts ++ [.closeParen]) test

mutual

/-- A level of binary operators; they associate to the left. -/
inductive OnLevel : Level → List Token → Expr → Prop
  | operand {l : Level} {ts : List Token} {e : Expr} (h : Operand l ts e) : OnLevel l ts e
  | binary {l : Level} {ts us : List Token} {t : Token} {op : BinaryOp} {a b : Expr}
      (ha : OnLevel l ts a) (ht : Operator l t op) (hb : Operand l us b) :
      OnLevel l (ts ++ t :: us) (.binary op a b)

inductive Operand : Level → List Token → Expr → Prop
  | tighter {l m : Level} {ts : List Token} {e : Expr} (hl : Precedes l m)
      (h : OnLevel m ts e) : Operand l ts e
  | unary {ts : List Token} {e : Expr} (h : Unary ts e) : Operand .multiplicative ts e

inductive Unary : List Token → Expr → Prop
  | union {ts : List Token} {e : Expr} (h : Union ts e) : Unary ts e
  | minus {ts : List Token} {e : Expr} (h : Unary ts e) : Unary (.minus :: ts) (.negate e)

inductive Union : List Token → Expr → Prop
  | path {ts : List Token} {e : Expr} (h : Path ts e) : Union ts e
  | union {ts us : List Token} {a b : Expr} (ha : Union ts a) (hb : Path us b) :
      Union (ts ++ .pipe :: us) (.union a b)

/-- A location path or a filter. A filter that narrows nothing and leads nowhere
stands for its primary expression. -/
inductive Path : List Token → Expr → Prop
  | location {ts : List Token} {e : Expr} (h : Location ts e) : Path ts e
  | primary {ts : List Token} {e : Expr} (h : Filter ts e []) : Path ts e
  | narrowed {ts : List Token} {e p : Expr} {ps : List Expr} (h : Filter ts e (p :: ps)) :
      Path ts (.filter e (p :: ps) [])
  | continued {ts us : List Token} {e : Expr} {ps : List Expr} {ss : List Step}
      (h : Filter ts e ps) (hs : Continuation us ss) : Path (ts ++ us) (.filter e ps ss)

inductive Filter : List Token → Expr → List Expr → Prop
  | mk {ts us : List Token} {e : Expr} {ps : List Expr} (h : Primary ts e)
      (hp : Predicates us ps) : Filter (ts ++ us) e ps

inductive Primary : List Token → Expr → Prop
  | group {ts : List Token} {e : Expr} (h : OnLevel .or ts e) :
      Primary (.openParen :: ts ++ [.closeParen]) e
  | literal (content : String) : Primary [.literal content] (.literal content)
  | number (value : Float) : Primary [.number value] (.number value)
  | call {name : String} {ts : List Token} {es : List Expr} (hn : name ∈ functionNames)
      (h : Arguments ts es) :
      Primary (.functionName name :: .openParen :: ts ++ [.closeParen]) (.function name es)

inductive Arguments : List Token → List Expr → Prop
  | none : Arguments [] []
  | some {ts : List Token} {es : List Expr} (h : ArgumentList ts es) : Arguments ts es

inductive ArgumentList : List Token → List Expr → Prop
  | last {ts : List Token} {e : Expr} (h : OnLevel .or ts e) : ArgumentList ts [e]
  | cons {ts us : List Token} {e : Expr} {es : List Expr} (h : OnLevel .or ts e)
      (hs : ArgumentList us es) : ArgumentList (ts ++ .comma :: us) (e :: es)

inductive Predicates : List Token → List Expr → Prop
  | nil : Predicates [] []
  | cons {ts us : List Token} {e : Expr} {es : List Expr} (h : OnLevel .or ts e)
      (hs : Predicates us es) :
      Predicates (.openBracket :: ts ++ .closeBracket :: us) (e :: es)

inductive Location : List Token → Expr → Prop
  | root : Location [.slash] (.path true [])
  | absolute {ts : List Token} {ss : List Step} (h : Relative ts ss) :
      Location (.slash :: ts) (.path true ss)
  | anywhere {ts : List Token} {ss : List Step} (h : Relative ts ss) :
      Location (.doubleSlash :: ts) (.path true (.mk .descendantOrSelf .node [] :: ss))
  | relative {ts : List Token} {ss : List Step} (h : Relative ts ss) :
      Location ts (.path false ss)

inductive Relative : List Token → List Step → Prop
  | last {ts : List Token} {s : Step} (h : StepPart ts s) : Relative ts [s]
  | cons {ts us : List Token} {s : Step} {ss : List Step} (h : StepPart ts s)
      (hs : Continuation us ss) : Relative (ts ++ us) (s :: ss)

/-- A separator and what it leads to; a double slash is a step of its own. -/
inductive Continuation : List Token → List Step → Prop
  | slash {ts : List Token} {ss : List Step} (h : Relative ts ss) :
      Continuation (.slash :: ts) ss
  | doubleSlash {ts : List Token} {ss : List Step} (h : Relative ts ss) :
      Continuation (.doubleSlash :: ts) (.mk .descendantOrSelf .node [] :: ss)

inductive StepPart : List Token → Step → Prop
  | dot : StepPart [.dot] (.mk .self .node [])
  | dotDot : StepPart [.dotDot] (.mk .parent .node [])
  | full {ts us vs : List Token} {axis : Axis} {test : NodeTest} {ps : List Expr}
      (ha : AxisPart ts axis) (ht : Test us test) (hp : Predicates vs ps) :
      StepPart (ts ++ us ++ vs) (.mk axis test ps)

end

/-! The tables of the parser are those of the grammar. -/

theorem next?_eq_some_iff {l m : Level} : l.next? = some m ↔ Precedes l m := by
  constructor
  · intro h
    cases l <;> cases h <;> constructor
  · intro h
    cases h <;> rfl

theorem eq_multiplicative_of_next? {l : Level} (h : l.next? = none) : l = .multiplicative := by
  cases l with
  | multiplicative => rfl
  | _ => cases h

theorem operator?_eq_some_iff {l : Level} {t : Token} {op : BinaryOp} :
    l.operator? t = some op ↔ Operator l t op := by
  constructor
  · intro h
    unfold Level.operator? at h
    split at h
    all_goals cases h
    all_goals constructor
  · intro h
    cases h <;> rfl

theorem ofName?_eq_some_iff {name : String} {axis : Axis} :
    Axis.ofName? name = some axis ↔ AxisName name axis := by
  constructor
  · intro h
    have hmem : (name, axis) ∈ Axis.names := by
      obtain ⟨before, after, hnames, -⟩ := List.lookup_eq_some_iff.mp h
      simp [hnames]
    simp only [Axis.names, List.mem_cons, Prod.mk.injEq, List.not_mem_nil, or_false] at hmem
    rcases hmem with ⟨rfl, rfl⟩ | ⟨rfl, rfl⟩ | ⟨rfl, rfl⟩ | ⟨rfl, rfl⟩ | ⟨rfl, rfl⟩ |
      ⟨rfl, rfl⟩ | ⟨rfl, rfl⟩ | ⟨rfl, rfl⟩ | ⟨rfl, rfl⟩ | ⟨rfl, rfl⟩ | ⟨rfl, rfl⟩ | ⟨rfl, rfl⟩
    all_goals constructor
  · intro h
    cases h <;> rfl

theorem typeTest_iff {kind : String} {test : NodeTest} :
    TypeTest kind test ↔ test = .ofType kind := by
  constructor
  · intro h
    cases h with
    | text | comment | node => rfl
    | other ht hc hn =>
        unfold NodeTest.ofType
        split
        · exact absurd rfl ht
        · exact absurd rfl hc
        · exact absurd rfl hn
        · rfl
  · rintro rfl
    unfold NodeTest.ofType
    split
    · exact .text
    · exact .comment
    · exact .node
    · next ht hc hn => exact .other ht hc hn

theorem ofName_qualifier (before : String) :
    NodeTest.ofName (before ++ ":*") = .qualifier (lowerAscii before) := by
  simp [NodeTest.ofName]

theorem ofName_name {text : String} (h : ∀ before, text ≠ before ++ ":*") :
    NodeTest.ofName text = .name (lowerAscii text) := by
  unfold NodeTest.ofName
  split
  · next rest hrest =>
    refine absurd ?_ (h (String.ofList rest.reverse))
    apply String.toList_injective
    rw [List.reverse_eq_iff.mp hrest]
    simp
  · rfl

theorem test_name_iff {text : String} {test : NodeTest} :
    Test [.name text] test ↔ test = .ofName text := by
  constructor
  · intro h
    cases h with
    | qualifier before => rw [ofName_qualifier]
    | name h => rw [ofName_name h]
  · rintro rfl
    by_cases h : ∃ before, text = before ++ ":*"
    · obtain ⟨before, rfl⟩ := h
      rw [ofName_qualifier]
      exact .qualifier before
    · rw [ofName_name fun before hb => h ⟨before, hb⟩]
      exact .name fun before hb => h ⟨before, hb⟩

end Harvest.XPath.Grammar
