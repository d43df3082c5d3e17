import Harvest.Proofs.XPath.Calls
import Harvest.Proofs.XPath.Respelling
import Harvest.XPath.Eval

/-!
What an evaluation can fail with.

A failure comes from an answer of the access, from a value that is no node-set where one is needed,
or from a call; everything else only hands failures on. So a kind of failure that holds those of the
answers and of the calls that an expression makes holds those of its evaluation. A call fails for
want of a function only if the table does not have its name, which the parser rules out.
-/

namespace Harvest.XPath

open Harvest.Markup

variable {ε α β : Type} {F : ε → Prop}

abbrev FailsAs (F : ε → Prop) (o : Except ε α) : Prop := Ends (fun _ => True) F o

namespace FailsAs

theorem ok (x : α) : FailsAs F (.ok x) := trivial

theorem bind {o : Except ε α} {f : α → Except ε β} (h : FailsAs F o) (hf : ∀ x, FailsAs F (f x)) :
    FailsAs F (o >>= f) := by
  cases o with
  | ok x => exact hf x
  | error p => exact h

theorem map {o : Except ε α} {f : α → β} (h : FailsAs F o) : FailsAs F (f <$> o) := by
  cases o with
  | ok x => trivial
  | error p => exact h

theorem mapM {f : α → Except ε β} {xs : List α} (h : ∀ x ∈ xs, FailsAs F (f x)) :
    FailsAs F (xs.mapM f) := by
  induction xs with
  | nil => exact .ok []
  | cons x xs ih =>
      obtain ⟨hx, hxs⟩ := List.forall_mem_cons.mp h
      rw [List.mapM_cons]
      exact hx.bind fun _ => (ih hxs).bind fun _ => .ok _

theorem anyM {f : α → Except ε Bool} (h : ∀ x, FailsAs F (f x)) (xs : List α) :
    FailsAs F (xs.anyM f) := by
  induction xs with
  | nil => exact .ok false
  | cons x xs ih =>
      rw [List.anyM_cons]
      refine (h x).bind fun found => ?_
      cases found with
      | true => exact .ok true
      | false => exact ih

end FailsAs

theorem failsAs_selectMembers {test : Focus → Except ε Value}
    (htest : ∀ focus, FailsAs F (test focus)) (ms : List Member) :
    FailsAs F (selectMembers test ms) := by
  unfold selectMembers
  generalize ms.length = size, 1 = position
  induction ms generalizing position with
  | nil => exact .ok []
  | cons m ms ih => exact (htest _).bind fun _ => (ih _).bind fun _ => .ok _

theorem failsAs_visitAll {visit : Member → Except ε (List Member)}
    (hvisit : ∀ m, FailsAs F (visit m)) (ms : List Member) : FailsAs F (visitAll visit ms) :=
  (FailsAs.mapM fun m _ => hvisit m).bind fun _ => .ok _

/-- What the access answers with where it fails, and what it reports, are of a kind; only the report
of a function that does not exist may be left out. -/
structure Access.Confined (a : Access ε) (F : ε → Prop) : Prop where
  candidates : ∀ axis test m, FailsAs F (a.candidates axis test m)
  stringValue : ∀ m, FailsAs F (a.stringValue m)
  name : ∀ m, FailsAs F (a.name m)
  missing : FailsAs F a.missing
  problem : ∀ p, (∀ name, p ≠ .unknownFunction name) → F (a.problem p)

/-- The trusting access always answers. -/
theorem confined_trusting (d : Document) {F : EvalProblem → Prop}
    (h : ∀ p, (∀ name, p ≠ .unknownFunction name) → F p) : (Access.trusting d).Confined F where
  candidates _ _ _ := .ok _
  stringValue _ := .ok _
  name _ := .ok _
  missing := .ok _
  problem := h

def CallsFailAs (a : Access ε) (F : ε → Prop) (name : String) : Prop :=
  ∀ focus args, (∀ arg ∈ args, FailsAs F arg) → FailsAs F (call a focus name args)

/-- A wrong number of arguments is another problem than a function that does not exist. -/
theorem Function.ne_unknownFunction_of_checkArity {fn : Function} {called : String} {given : Nat}
    {p : EvalProblem} (h : fn.checkArity called given = .error p) (name : String) :
    p ≠ .unknownFunction name := by
  rintro rfl
  unfold checkArity at h
  split at h <;> split at h <;> cases h

namespace Access.Confined

variable {a : Access ε} (s : a.Confined F)
include s

theorem toText (v : Value) : FailsAs F (a.toText v) := by
  cases v with
  | nodes members =>
      cases members with
      | nil => exact .ok ""
      | cons m _ => exact s.stringValue m
  | text _ | number _ | truth _ => exact .ok _

theorem cutAt (part : Nat → Option (List Char)) (place? : Option Nat) :
    FailsAs F (XPath.cutAt a part place?) := by
  unfold XPath.cutAt
  split
  · exact .ok _
  · split
    · exact .ok _
    · exact s.missing

theorem toNumber (v : Value) : FailsAs F (a.toNumber v) := by
  cases v with
  | nodes members => exact (s.toText (.nodes members)).map
  | text _ | number _ | truth _ => exact .ok _

/-! Functions. -/

section Functions

variable {args : List (Except ε Value)} (hargs : ∀ arg ∈ args, FailsAs F arg) (focus : Focus)
include hargs

theorem required (i : Nat) : FailsAs F (XPath.required a args i) := by
  unfold XPath.required
  cases hi : args[i]? with
  | none => exact s.missing
  | some arg => exact hargs arg (List.mem_of_getElem? hi)

theorem textArg (i : Nat) : FailsAs F (XPath.textArg a focus args i) := by
  unfold XPath.textArg
  cases hi : args[i]? with
  | none => exact s.stringValue focus.member
  | some arg => exact (hargs arg (List.mem_of_getElem? hi)).bind s.toText

theorem numberArg (i : Nat) : FailsAs F (XPath.numberArg a args i) :=
  (s.required hargs i).bind s.toNumber

theorem truthArg : FailsAs F (XPath.truthArg a args) :=
  (s.required hargs 0).bind fun _ => .ok _

theorem nodesArg (name : String) : FailsAs F (XPath.nodesArg a name args) := by
  refine (s.required hargs 0).bind fun v => ?_
  cases v with
  | nodes members => exact .ok members
  | text _ | number _ | truth _ => exact s.problem (.needsNodeSet name) nofun

theorem nameArg (name : String) : FailsAs F (XPath.nameArg a focus name args) := by
  unfold XPath.nameArg
  split
  · exact s.name focus.member
  · refine (s.nodesArg hargs name).bind fun members => ?_
    cases documentOrder members with
    | nil => exact .ok ""
    | cons m _ => exact s.name m

/-- A function hands on the failures of its arguments and of the access, and asks for node-sets. -/
theorem applyFunction (fn : Function) (name : String) :
    FailsAs F (XPath.applyFunction a focus fn name args) := by
  have text (i : Nat) := s.textArg hargs focus i
  cases fn with
  | last | position | true | false => exact .ok _
  | count => exact (s.nodesArg hargs name).bind fun _ => .ok _
  | sum =>
      refine (s.nodesArg hargs name).bind fun members => ?_
      have hnumbers : FailsAs F (members.mapM fun m => do return readNumber (← a.stringValue m)) :=
        .mapM fun m _ => (s.stringValue m).bind fun _ => .ok _
      exact hnumbers.bind fun _ => .ok _
  | concat =>
      have hparts : FailsAs F (args.mapM fun arg => do a.toText (← arg)) :=
        .mapM fun arg harg => (hargs arg harg).bind s.toText
      exact hparts.bind fun _ => .ok _
  | string | lowerCase | upperCase => exact (text 0).map
  | contains | startsWith | endsWith => exact (text 0).bind fun _ => (text 1).bind fun _ => .ok _
  | substringBefore | substringAfter =>
      exact (text 0).bind fun _ => (text 1).bind fun _ => s.cutAt _ _
  | substring =>
      refine (text 0).bind fun content => (s.numberArg hargs 1).bind fun start => ?_
      cases args[2]? with
      | none => exact .ok _
      | some _ => exact (s.numberArg hargs 2).bind fun _ => .ok _
  | stringLength | normalizeSpace => exact (text 0).bind fun _ => .ok _
  | translate =>
      exact (text 0).bind fun _ => (text 1).bind fun _ => (text 2).bind fun _ => .ok _
  | not | boolean => exact (s.truthArg hargs).map
  | number =>
      simp only [XPath.applyFunction]
      split
      · exact (s.stringValue focus.member).bind fun _ => .ok _
      · exact (s.numberArg hargs 0).bind fun _ => .ok _
  | floor | ceiling | round => exact (s.numberArg hargs 0).map
  | name => exact (s.nameArg hargs focus name).map
  | localName => exact (s.nameArg hargs focus name).bind fun _ => .ok _

end Functions

/-- A call fails for want of a function only if the table does not have the name. -/
theorem callsFailAs {name : String}
    (hunknown : Function.ofName? name = none → F (a.problem (.unknownFunction name))) :
    CallsFailAs a F name := by
  intro focus args hargs
  unfold XPath.call
  cases hname : Function.ofName? name with
  | none => exact hunknown hname
  | some fn =>
      simp only
      cases harity : fn.checkArity name args.length with
      | error p => exact s.problem p (Function.ne_unknownFunction_of_checkArity harity)
      | ok _ => exact s.applyFunction hargs focus fn name

/-! Operators. -/

theorem atomize (m : Member) (like : Value) : FailsAs F (XPath.atomize a m like) :=
  (s.stringValue m).bind fun _ => .ok _

theorem compare (op : BinaryOp) (v w : Value) : FailsAs F (XPath.compare a op v w) := by
  unfold XPath.compare
  split
  · refine .anyM (fun x => (s.stringValue x).bind fun left => ?_) _
    exact .anyM (fun y => (s.stringValue y).bind fun _ => .ok _) _
  · exact .ok _
  · exact .ok _
  · exact .anyM (fun x => (s.atomize x _).bind fun _ => .ok _) _
  · exact .anyM (fun y => (s.atomize y _).bind fun _ => .ok _) _
  · exact .ok _

theorem applyBinary (op : BinaryOp) {left right : Except ε Value} (hleft : FailsAs F left)
    (hright : FailsAs F right) : FailsAs F (XPath.applyBinary a op left right) := by
  have harithmetic (f : Float → Float → Float) :
      FailsAs F (applyBinary.arithmetic a left right f) :=
    hleft.bind fun v => (s.toNumber v).bind fun _ =>
      hright.bind fun w => (s.toNumber w).bind fun _ => .ok _
  have hcompare (op : BinaryOp) :
      FailsAs F (do return Value.truth (← XPath.compare a op (← left) (← right))) :=
    hleft.bind fun v => hright.bind fun w => (s.compare op v w).bind fun _ => .ok _
  cases op with
  | or | and =>
      refine hleft.bind fun v => ?_
      split
      · exact .ok _
      · exact hright.bind fun _ => .ok _
  | add | sub | mul | div | mod => exact harithmetic _
  | eq | ne | lt | le | gt | ge => exact hcompare _

/-! Expressions. -/

set_option linter.unusedSectionVars false in
mutual

/-- An evaluation fails as the calls do that stand in the expression. -/
theorem eval (e : Expr) (h : ∀ name ∈ e.calls, CallsFailAs a F name) (focus : Focus) :
    FailsAs F (a.eval e focus) := by
  match e with
  | .literal _ => exact .ok _
  | .number _ => exact .ok _
  | .negate operand =>
      exact (eval operand h focus).bind fun v => (s.toNumber v).bind fun _ => .ok _
  | .binary op left right =>
      obtain ⟨hleft, hright⟩ := List.forall_mem_append.mp h
      exact s.applyBinary op (eval left hleft focus) (eval right hright focus)
  | .union left right =>
      obtain ⟨hleft, hright⟩ := List.forall_mem_append.mp h
      refine (eval left hleft focus).bind fun v => (eval right hright focus).bind fun w => ?_
      split
      · exact .ok _
      · exact s.problem .unionOfValues nofun
  | .function name args =>
      obtain ⟨hname, hargs⟩ := List.forall_mem_cons.mp h
      exact hname focus _ (evalArgs args hargs focus)
  | .path absolute steps => exact (walk steps h _).bind fun _ => .ok _
  | .filter primary predicates steps =>
      obtain ⟨hprimary, hrest⟩ := List.forall_mem_append.mp h
      obtain ⟨hpredicates, hsteps⟩ := List.forall_mem_append.mp hrest
      refine (eval primary hprimary focus).bind fun v => ?_
      split
      · exact (narrow predicates hpredicates _).bind fun _ =>
          (walk steps hsteps _).bind fun _ => .ok _
      · exact s.problem .stepsOnValue nofun

theorem evalArgs (args : List Expr) (h : ∀ name ∈ exprsCalls args, CallsFailAs a F name)
    (focus : Focus) : ∀ arg ∈ a.evalArgs args focus, FailsAs F arg := by
  match args with
  | [] => exact fun _ harg => absurd harg List.not_mem_nil
  | arg :: args =>
      obtain ⟨harg, hargs⟩ := List.forall_mem_append.mp h
      exact List.forall_mem_cons.mpr ⟨eval arg harg focus, evalArgs args hargs focus⟩

theorem narrow (predicates : List Expr) (h : ∀ name ∈ exprsCalls predicates, CallsFailAs a F name)
    (ms : List Member) : FailsAs F (a.narrow predicates ms) := by
  match predicates with
  | [] => exact .ok _
  | p :: ps =>
      obtain ⟨hp, hps⟩ := List.forall_mem_append.mp h
      exact (failsAs_selectMembers (eval p hp) ms).bind fun kept => narrow ps hps kept

theorem walk (steps : List Step) (h : ∀ name ∈ stepsCalls steps, CallsFailAs a F name)
    (ms : List Member) : FailsAs F (a.walk steps ms) := by
  match steps with
  | [] => exact .ok _
  | .mk axis test predicates :: rest =>
      obtain ⟨hpredicates, hrest⟩ := List.forall_mem_append.mp h
      refine (failsAs_visitAll (fun m => ?_) ms).bind fun found => walk rest hrest found
      exact (s.candidates axis test m).bind fun listed => narrow predicates hpredicates listed

end

end Access.Confined

/-- An evaluation that ends for want of a function names one that the expression calls and the table
does not have. -/
theorem mem_calls_of_eval_eq_error {d : Document} {e : Expr} {focus : Focus} {name : String}
    (h : eval d e focus = .error (.unknownFunction name)) :
    name ∈ e.calls ∧ Function.ofName? name = none := by
  let F (p : EvalProblem) : Prop :=
    ∀ name, p = .unknownFunction name → name ∈ e.calls ∧ Function.ofName? name = none
  have hconfined : (Access.trusting d).Confined F :=
    confined_trusting d fun p hp name hname => absurd hname (hp name)
  have hcalls : ∀ called ∈ e.calls, CallsFailAs (Access.trusting d) F called := by
    intro called hcalled
    refine hconfined.callsFailAs fun hnone name hname => ?_
    cases hname
    exact ⟨hcalled, hnone⟩
  have hfails : FailsAs F (eval d e focus) := hconfined.eval e hcalls focus
  rw [h] at hfails
  exact hfails name rfl

theorem parse_of_ofText {source : String} {x : Compiled} (h : Compiled.ofText source = .ok x) :
    parse source = .ok x.expr := by
  unfold Compiled.ofText at h
  cases hread : parse source with
  | error p => rw [hread] at h; cases h
  | ok e => rw [hread] at h; cases h; rfl

/-- A function that an evaluation does not miss, the searches for a value, a text and nodes do not
miss either. -/
theorem ne_unknownFunction_of_eval_ne {x : Compiled} {context : NodeRef} {name : String}
    (h : XPath.eval context.document x.expr ⟨.node context.id, 1, 1⟩ ≠
      .error (.unknownFunction name)) :
    x.evaluate context ≠ .error (.evaluation (.unknownFunction name)) ∧
      x.evaluateText context ≠ .error (.evaluation (.unknownFunction name)) ∧
      x.select context ≠ .error (.evaluation (.unknownFunction name)) := by
  unfold Compiled.select Compiled.evaluateText Compiled.evaluate
  generalize XPath.eval context.document x.expr ⟨.node context.id, 1, 1⟩ = outcome at h ⊢
  cases outcome with
  | ok v =>
      -- To select asks for nodes, and where there are none it fails with another problem.
      refine ⟨nofun, nofun, ?_⟩
      cases v <;> exact nofun
  | error p =>
      have hne : p ≠ .unknownFunction name := fun heq => h (heq ▸ rfl)
      refine ⟨?_, ?_, ?_⟩ <;>
      · intro heq
        cases heq
        exact hne rfl

/-- An expression that has been read calls functions of the table only, at any depth; so its
evaluation never fails for want of a function, in whatever document and context it is evaluated, and
neither does the search for its text or its nodes. -/
theorem Compiled.calls_exist {source : String} {x : Compiled}
    (h : Compiled.ofText source = .ok x) :
    (∀ name ∈ x.expr.calls, ∃ fn, Function.ofName? name = some fn) ∧
      (∀ d focus name, XPath.eval d x.expr focus ≠ .error (.unknownFunction name)) ∧
      ∀ context name, x.evaluate context ≠ .error (.evaluation (.unknownFunction name)) ∧
        x.evaluateText context ≠ .error (.evaluation (.unknownFunction name)) ∧
        x.select context ≠ .error (.evaluation (.unknownFunction name)) := by
  have hcalls (name : String) (hname : name ∈ x.expr.calls) :
      ∃ fn, Function.ofName? name = some fn :=
    mem_functionNames_iff.mp (calls_subset_of_parse (parse_of_ofText h) hname)
  have heval (d : Document) (focus : Focus) (name : String) :
      XPath.eval d x.expr focus ≠ .error (.unknownFunction name) := by
    intro herror
    obtain ⟨hname, hnone⟩ := mem_calls_of_eval_eq_error herror
    obtain ⟨fn, hfn⟩ := hcalls name hname
    rw [hnone] at hfn
    cases hfn
  exact ⟨hcalls, heval, fun context name => ne_unknownFunction_of_eval_ne (heval _ _ name)⟩

def crowdedCall : Compiled where
  source := "count(a[not(.,b)])"
  expr := .function "count" [.path false [.mk .child (.name "a")
    [.function "not" [.path false [.here], .path false [.mk .child (.name "b") []]]]]]

theorem tokenize_crowdedCall : tokenize crowdedCall.source = .ok [⟨.functionName "count", 0⟩,
    ⟨.openParen, 5⟩, ⟨.name "a", 6⟩, ⟨.openBracket, 7⟩, ⟨.functionName "not", 8⟩,
    ⟨.openParen, 11⟩, ⟨.dot, 12⟩, ⟨.comma, 13⟩, ⟨.name "b", 14⟩, ⟨.closeParen, 15⟩,
    ⟨.closeBracket, 16⟩, ⟨.closeParen, 17⟩] := by
  have hchars : crowdedCall.source.toList =
      'c' :: (['o', 'u', 'n', 't'] ++ '(' :: 'a' :: '[' :: 'n' :: (['o', 't'] ++ '(' ::
        ['.', ',', 'b', ')', ']', ')'])) := by decide
  have ha (v : List Char) : readToken false 'a' ('[' :: v) = .ok (.name "a", 0) := by cbv
  rw [tokenize, hchars]
  refine tokensFrom_cons (by decide)
    (readToken_call (by decide) (by decide) (by decide) (by decide) (by decide +kernel) _) ?_
  refine tokensFrom_cons (by decide) rfl ?_
  refine tokensFrom_cons (by decide) (ha _) ?_
  refine tokensFrom_cons (by decide) rfl ?_
  refine tokensFrom_cons (by decide)
    (readToken_call (by decide) (by decide) (by decide) (by decide) (by decide +kernel) _) ?_
  cbv

theorem ofText_crowdedCall : Compiled.ofText crowdedCall.source = .ok crowdedCall := by
  have hparse : parseTokens [⟨.functionName "count", 0⟩, ⟨.openParen, 5⟩, ⟨.name "a", 6⟩,
      ⟨.openBracket, 7⟩, ⟨.functionName "not", 8⟩, ⟨.openParen, 11⟩, ⟨.dot, 12⟩, ⟨.comma, 13⟩,
      ⟨.name "b", 14⟩, ⟨.closeParen, 15⟩, ⟨.closeBracket, 16⟩, ⟨.closeParen, 17⟩] =
      .ok crowdedCall.expr := by cbv
  rw [Compiled.ofText, parse, tokenize_crowdedCall]
  dsimp only
  rw [hparse]
  rfl

/-- Both functions exist, and the evaluation fails for the number of arguments. -/
theorem Compiled.calls_exist_crowdedCall :
    Compiled.ofText crowdedCall.source = .ok crowdedCall ∧
      crowdedCall.expr.calls = ["count", "not"] ∧
      (∃ fn, Function.ofName? "not" = some fn) ∧
      crowdedCall.evaluate (.ofRoot (Builder.run [.openElement "a" []]).document) =
        .error (.evaluation (.arity "not" 1 1 2)) ∧
      crowdedCall.evaluate (.ofRoot (Builder.run [.openElement "a" []]).document) ≠
        .error (.evaluation (.unknownFunction "not")) := by
  have hcalls : crowdedCall.expr.calls = ["count", "not"] := by rfl
  obtain ⟨hexist, -, hevaluate⟩ := Compiled.calls_exist ofText_crowdedCall
  exact ⟨ofText_crowdedCall, hcalls, hexist "not" (by rw [hcalls]; decide), by cbv,
    (hevaluate _ "not").1⟩

end Harvest.XPath
