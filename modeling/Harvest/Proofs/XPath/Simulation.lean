import Harvest.Proofs.Text.Slices
import Harvest.Proofs.XPath.Agreement
import Harvest.Proofs.XPath.Order
import Harvest.XPath.Eval

/-!
Evaluation does not tell related accesses apart.

A simulation relates the members of one access to those of another one so that the two give related
answers to the same questions. Whatever an evaluation finds, returns or fails with is then related
as well. The simulation may be limited to some axes and to expressions that never start from the
root; `Expr.keepsTo` is the limit on an expression.
-/

namespace Harvest.XPath

mutual

/-- Whether every step of an expression, at any depth, is along one of the axes, and no path starts
from the root unless that is allowed. -/
def Expr.keepsTo (axes : Axis → Bool) (fromRoot : Bool) : Expr → Bool
  | .literal _ => true
  | .number _ => true
  | .negate operand => operand.keepsTo axes fromRoot
  | .binary _ left right => left.keepsTo axes fromRoot && right.keepsTo axes fromRoot
  | .union left right => left.keepsTo axes fromRoot && right.keepsTo axes fromRoot
  | .function _ args => exprsKeepTo axes fromRoot args
  | .path absolute steps => (!absolute || fromRoot) && stepsKeepTo axes fromRoot steps
  | .filter primary predicates steps =>
    primary.keepsTo axes fromRoot && exprsKeepTo axes fromRoot predicates &&
      stepsKeepTo axes fromRoot steps

def exprsKeepTo (axes : Axis → Bool) (fromRoot : Bool) : List Expr → Bool
  | [] => true
  | e :: es => e.keepsTo axes fromRoot && exprsKeepTo axes fromRoot es

def stepsKeepTo (axes : Axis → Bool) (fromRoot : Bool) : List Step → Bool
  | [] => true
  | .mk axis _ predicates :: rest =>
    axes axis && exprsKeepTo axes fromRoot predicates && stepsKeepTo axes fromRoot rest

end

mutual

/-- Nothing is ruled out where every axis and the root are allowed. -/
theorem Expr.keepsTo_all (e : Expr) : e.keepsTo (fun _ => true) true = true := by
  match e with
  | .literal _ => simp [Expr.keepsTo]
  | .number _ => simp [Expr.keepsTo]
  | .negate operand => simp [Expr.keepsTo, operand.keepsTo_all]
  | .binary _ left right => simp [Expr.keepsTo, left.keepsTo_all, right.keepsTo_all]
  | .union left right => simp [Expr.keepsTo, left.keepsTo_all, right.keepsTo_all]
  | .function _ args => simp [Expr.keepsTo, exprsKeepTo_all args]
  | .path _ steps => simp [Expr.keepsTo, stepsKeepTo_all steps]
  | .filter primary predicates steps =>
      simp [Expr.keepsTo, primary.keepsTo_all, exprsKeepTo_all predicates, stepsKeepTo_all steps]

theorem exprsKeepTo_all (es : List Expr) : exprsKeepTo (fun _ => true) true es = true := by
  match es with
  | [] => rfl
  | e :: es => simp [exprsKeepTo, e.keepsTo_all, exprsKeepTo_all es]

theorem stepsKeepTo_all (ss : List Step) : stepsKeepTo (fun _ => true) true ss = true := by
  match ss with
  | [] => rfl
  | .mk _ _ predicates :: rest =>
      simp [stepsKeepTo, exprsKeepTo_all predicates, stepsKeepTo_all rest]

end

/-- Values that are the same but for their members, which are related one by one. -/
inductive ValueRel (M : Member → Member → Prop) : Value → Value → Prop
  | nodes {ms ns : List Member} : List.Forall₂ M ms ns → ValueRel M (.nodes ms) (.nodes ns)
  | text (content : String) : ValueRel M (.text content) (.text content)
  | number (x : Float) : ValueRel M (.number x) (.number x)
  | truth (b : Bool) : ValueRel M (.truth b) (.truth b)

/-- Values that are the same and no node-sets. -/
inductive SameAtom : Value → Value → Prop
  | text (content : String) : SameAtom (.text content) (.text content)
  | number (x : Float) : SameAtom (.number x) (.number x)
  | truth (b : Bool) : SameAtom (.truth b) (.truth b)

theorem SameAtom.valueRel {M : Member → Member → Prop} {v w : Value} (h : SameAtom v w) :
    ValueRel M v w := by
  cases h with
  | text content => exact .text content
  | number x => exact .number x
  | truth b => exact .truth b

structure FocusRel (M : Member → Member → Prop) (f g : Focus) : Prop where
  member : M f.member g.member
  position : f.position = g.position
  size : f.size = g.size

variable {ε ε' : Type}

/-- Two accesses that give related answers along the axes allowed. -/
structure Simulation (a : Access ε) (b : Access ε') (axes : Axis → Bool) (fromRoot : Bool)
    (E : ε → ε' → Prop) (M : Member → Member → Prop) : Prop where
  order : ∀ x x' y y', M x x' → M y y' → x.notAfter y = x'.notAfter y'
  candidates : ∀ axis test m m', axes axis = true → M m m' →
    Agree E (List.Forall₂ M) (a.candidates axis test m) (b.candidates axis test m')
  stringValue : ∀ m m', M m m' → Agree E Eq (a.stringValue m) (b.stringValue m')
  name : ∀ m m', M m m' → Agree E Eq (a.name m) (b.name m')
  problem : ∀ p, E (a.problem p) (b.problem p)
  root : fromRoot = true → M (.node 0) (.node 0)

theorem ValueRel.toTruth_eq {M : Member → Member → Prop} {v w : Value} (h : ValueRel M v w) :
    v.toTruth = w.toTruth := by
  cases h with
  | nodes h => cases h <;> rfl
  | text content => rfl
  | number x => rfl
  | truth b => rfl

theorem ValueRel.keeps_eq {M : Member → Member → Prop} {v w : Value} (h : ValueRel M v w)
    (position : Nat) : keeps position v = keeps position w := by
  cases h with
  | nodes h => exact (ValueRel.nodes h).toTruth_eq
  | text content => rfl
  | number x => rfl
  | truth b => rfl

theorem isEmpty_eq_of_forall₂ {α β : Type} {R : α → β → Prop} {xs : List α} {ys : List β}
    (h : List.Forall₂ R xs ys) : xs.isEmpty = ys.isEmpty := by
  cases h <;> rfl

/-- An argument that is given is given to both sides, so what stands in for a missing one does not
matter. -/
theorem agree_required {E : ε → ε' → Prop} {R : Value → Value → Prop} (a : Access ε)
    (b : Access ε') {args : List (Except ε Value)} {args' : List (Except ε' Value)}
    (hargs : List.Forall₂ (Agree E R) args args') {i : Nat} (h : i < args.length) :
    Agree E R (required a args i) (required b args' i) := by
  have h' : i < args'.length := hargs.length_eq ▸ h
  rw [required, required, List.getElem?_eq_getElem h, List.getElem?_eq_getElem h']
  exact hargs.get h h'

/-- A part that can be cut out is the same on both sides. -/
theorem agree_cutAt {E : ε → ε' → Prop} (a : Access ε) (b : Access ε')
    {part : Nat → Option (List Char)} {place? : Option Nat}
    (h : ∀ place, place? = some place → ∃ cs, part place = some cs) :
    Agree E SameAtom (cutAt a part place?) (cutAt b part place?) := by
  cases place? with
  | none => exact .ok (.text _)
  | some place =>
      obtain ⟨cs, hcs⟩ := h place rfl
      rw [cutAt, cutAt, hcs]
      exact .ok (.text _)

theorem agree_truthArg {E : ε → ε' → Prop} {M : Member → Member → Prop} (a : Access ε)
    (b : Access ε') {args : List (Except ε Value)} {args' : List (Except ε' Value)}
    (hargs : List.Forall₂ (Agree E (ValueRel M)) args args') (h : 0 < args.length) :
    Agree E Eq (truthArg a args) (truthArg b args') :=
  (agree_required a b hargs h).bind fun _ _ hv => .ok hv.toTruth_eq

theorem agree_selectMembers {E : ε → ε' → Prop} {M : Member → Member → Prop}
    {test : Focus → Except ε Value} {test' : Focus → Except ε' Value}
    (htest : ∀ f g, FocusRel M f g → Agree E (ValueRel M) (test f) (test' g))
    {ms ns : List Member} (h : List.Forall₂ M ms ns) :
    Agree E (List.Forall₂ M) (selectMembers test ms) (selectMembers test' ns) := by
  unfold selectMembers
  rw [← h.length_eq]
  generalize ms.length = size, 1 = position
  induction h generalizing position with
  | nil => exact .ok .nil
  | cons hm _ ih =>
      refine (htest ⟨_, position, size⟩ ⟨_, position, size⟩ ⟨hm, rfl, rfl⟩).bind fun v w hv => ?_
      refine (ih (position + 1)).bind fun kept kept' hkept => ?_
      rw [hv.keeps_eq]
      split
      · exact .ok (.cons hm hkept)
      · exact .ok hkept

theorem Function.arity_le_of_checkArity {fn : Function} {name : String} {given : Nat}
    (h : fn.checkArity name given = .ok ()) : fn.arity.1 ≤ given := by
  unfold Function.checkArity at h
  split at h
  · next heq =>
    rw [heq]
    split at h
    · cases h
    · next hgiven =>
      simp only [Bool.or_eq_true, decide_eq_true_eq, not_or] at hgiven
      exact Nat.le_of_not_lt hgiven.1
  · next heq =>
    rw [heq]
    split at h
    · cases h
    · next hgiven => exact Nat.le_of_not_lt hgiven

namespace Simulation

variable {a : Access ε} {b : Access ε'} {axes : Axis → Bool} {fromRoot : Bool}
  {E : ε → ε' → Prop} {M : Member → Member → Prop} (s : Simulation a b axes fromRoot E M)
include s

theorem documentOrder {ms ns : List Member} (h : List.Forall₂ M ms ns) :
    List.Forall₂ M (XPath.documentOrder ms) (XPath.documentOrder ns) :=
  forall₂_documentOrder s.order h

theorem toText {v w : Value} (h : ValueRel M v w) : Agree E Eq (a.toText v) (b.toText w) := by
  cases h with
  | nodes h =>
      cases h with
      | nil => exact .ok rfl
      | cons hm _ => exact s.stringValue _ _ hm
  | text content => exact .ok rfl
  | number x => exact .ok rfl
  | truth b => exact .ok rfl

theorem toNumber {v w : Value} (h : ValueRel M v w) :
    Agree E Eq (a.toNumber v) (b.toNumber w) := by
  cases h with
  | nodes h => exact (s.toText (.nodes h)).map fun _ _ => congrArg readNumber
  | text content => exact .ok rfl
  | number x => exact .ok rfl
  | truth b => exact .ok rfl

/-! Functions. -/

section Functions

variable {f g : Focus} (hfocus : FocusRel M f g) {args : List (Except ε Value)}
  {args' : List (Except ε' Value)} (hargs : List.Forall₂ (Agree E (ValueRel M)) args args')

include hfocus hargs in
theorem textArg (i : Nat) : Agree E Eq (XPath.textArg a f args i) (XPath.textArg b g args' i) := by
  unfold XPath.textArg
  rcases Nat.lt_or_ge i args.length with h | h
  · have h' : i < args'.length := hargs.length_eq ▸ h
    rw [List.getElem?_eq_getElem h, List.getElem?_eq_getElem h']
    exact (hargs.get h h').bind fun v w hv => s.toText hv
  · have h' : args'.length ≤ i := hargs.length_eq ▸ h
    rw [List.getElem?_eq_none h, List.getElem?_eq_none h']
    exact s.stringValue _ _ hfocus.member

include hargs in
theorem numberArg {i : Nat} (h : i < args.length) :
    Agree E Eq (XPath.numberArg a args i) (XPath.numberArg b args' i) :=
  (agree_required a b hargs h).bind fun _ _ hv => s.toNumber hv

include hargs in
theorem nodesArg (h : 0 < args.length) (name : String) :
    Agree E (List.Forall₂ M) (XPath.nodesArg a name args) (XPath.nodesArg b name args') := by
  refine (agree_required a b hargs h).bind fun v w hv => ?_
  cases hv with
  | nodes hms => exact .ok hms
  | text content => exact .error (s.problem _)
  | number x => exact .error (s.problem _)
  | truth b => exact .error (s.problem _)

include hfocus hargs in
theorem nameArg (name : String) :
    Agree E Eq (XPath.nameArg a f name args) (XPath.nameArg b g name args') := by
  unfold XPath.nameArg
  cases hargs with
  | nil => exact s.name _ _ hfocus.member
  | cons harg hrest =>
      refine (s.nodesArg (.cons harg hrest) (Nat.zero_lt_succ _) name).bind fun ms ns h => ?_
      have hsorted := s.documentOrder h
      generalize XPath.documentOrder ms = ms, XPath.documentOrder ns = ns at hsorted ⊢
      cases hsorted with
      | nil => exact .ok rfl
      | cons hm _ => exact s.name _ _ hm

include hfocus hargs in
/-- A function with the arguments it requires returns the same on both sides, and no node-set. -/
theorem applyFunction (fn : Function) (name : String) (h : fn.arity.1 ≤ args.length) :
    Agree E SameAtom (XPath.applyFunction a f fn name args)
      (XPath.applyFunction b g fn name args') := by
  have text (i : Nat) := s.textArg hfocus hargs i
  -- Each case goes through the arguments in the order in which the function looks at them.
  cases fn with
  | last =>
      simp only [XPath.applyFunction, hfocus.size]
      exact .ok (.number _)
  | position =>
      simp only [XPath.applyFunction, hfocus.position]
      exact .ok (.number _)
  | count =>
      refine (s.nodesArg hargs h name).bind fun ms ns hms => ?_
      rw [hms.length_eq]
      exact .ok (.number _)
  | sum =>
      refine (s.nodesArg hargs h name).bind fun ms ns hms => ?_
      have hnumbers : Agree E (List.Forall₂ Eq)
          (ms.mapM fun m => do return readNumber (← a.stringValue m))
          (ns.mapM fun m => do return readNumber (← b.stringValue m)) :=
        .mapM hms fun m m' hm => (s.stringValue m m' hm).andThen fun _ => .ok rfl
      refine hnumbers.bind fun xs ys hxs => ?_
      rw [List.forall₂_eq_eq_eq] at hxs
      subst hxs
      exact .ok (.number _)
  | string => exact (text 0).map fun _ _ h => h ▸ .text _
  | concat =>
      have hparts : Agree E (List.Forall₂ Eq) (args.mapM fun arg => do a.toText (← arg))
          (args'.mapM fun arg => do b.toText (← arg)) :=
        .mapM hargs fun _ _ harg => harg.bind fun v w hv => s.toText hv
      refine hparts.bind fun xs ys hxs => ?_
      rw [List.forall₂_eq_eq_eq] at hxs
      subst hxs
      exact .ok (.text _)
  | contains | startsWith | endsWith =>
      exact (text 0).andThen fun _ => (text 1).andThen fun _ => .ok (.truth _)
  | substringBefore =>
      refine (text 0).andThen fun hay => (text 1).andThen fun needle => agree_cutAt a b ?_
      intro place hplace
      obtain ⟨before, -, -, hbefore, -⟩ := Text.cuts_of_placeOf? hplace
      exact ⟨before, hbefore⟩
  | substringAfter =>
      refine (text 0).andThen fun hay => (text 1).andThen fun needle => agree_cutAt a b ?_
      intro place hplace
      obtain ⟨-, after, -, -, hafter⟩ := Text.cuts_of_placeOf? hplace
      exact ⟨after, hafter⟩
  | substring =>
      refine (text 0).andThen fun content => ?_
      refine (s.numberArg hargs h).andThen fun start => ?_
      -- The third argument may be missing, but then on both sides.
      rcases Nat.lt_or_ge 2 args.length with h2 | h2
      · have h2' : 2 < args'.length := hargs.length_eq ▸ h2
        simp only [List.getElem?_eq_getElem h2, List.getElem?_eq_getElem h2']
        exact (s.numberArg hargs h2).andThen fun _ => .ok (.text _)
      · have h2' : args'.length ≤ 2 := hargs.length_eq ▸ h2
        simp only [List.getElem?_eq_none h2, List.getElem?_eq_none h2']
        exact .ok (.text _)
  | stringLength => exact (text 0).andThen fun _ => .ok (.number _)
  | normalizeSpace => exact (text 0).andThen fun _ => .ok (.text _)
  | translate =>
      exact (text 0).andThen fun _ => (text 1).andThen fun _ => (text 2).andThen fun _ =>
        .ok (.text _)
  | lowerCase | upperCase => exact (text 0).map fun _ _ h => h ▸ .text _
  | not | boolean => exact (agree_truthArg a b hargs h).map fun _ _ h => h ▸ .truth _
  | true | false => exact .ok (.truth _)
  | number =>
      simp only [XPath.applyFunction]
      rw [← isEmpty_eq_of_forall₂ hargs]
      split
      · exact (s.stringValue _ _ hfocus.member).andThen fun _ => .ok (.number _)
      · next hne =>
        have h0 : 0 < args.length := by
          simpa [List.length_pos_iff] using hne
        exact (s.numberArg hargs h0).andThen fun _ => .ok (.number _)
  | floor | ceiling | round => exact (s.numberArg hargs h).map fun _ _ h => h ▸ .number _
  | name => exact (s.nameArg hfocus hargs name).map fun _ _ h => h ▸ .text _
  | localName => exact (s.nameArg hfocus hargs name).andThen fun _ => .ok (.text _)

include hfocus hargs in
theorem call (name : String) :
    Agree E SameAtom (XPath.call a f name args) (XPath.call b g name args') := by
  unfold XPath.call
  cases Function.ofName? name with
  | none => exact .error (s.problem _)
  | some fn =>
      simp only
      rw [← hargs.length_eq]
      cases harity : fn.checkArity name args.length with
      | error p => exact .error (s.problem p)
      | ok _ => exact s.applyFunction hfocus hargs fn name (Function.arity_le_of_checkArity harity)

end Functions

/-! Operators. -/

theorem atomize {m m' : Member} (hm : M m m') (like : Value) :
    Agree E Eq (XPath.atomize a m like) (XPath.atomize b m' like) :=
  (s.stringValue _ _ hm).andThen fun _ => .ok rfl

theorem compareLeft {ms ns : List Member} (h : List.Forall₂ M ms ns) (op : BinaryOp)
    (atom : Value) :
    Agree E Eq (ms.anyM fun x => do return compareAtoms op (← XPath.atomize a x atom) atom)
      (ns.anyM fun x => do return compareAtoms op (← XPath.atomize b x atom) atom) :=
  .anyM h fun _ _ hm => (s.atomize hm atom).andThen fun _ => .ok rfl

theorem compareRight {ms ns : List Member} (h : List.Forall₂ M ms ns) (op : BinaryOp)
    (atom : Value) :
    Agree E Eq (ms.anyM fun y => do return compareAtoms op atom (← XPath.atomize a y atom))
      (ns.anyM fun y => do return compareAtoms op atom (← XPath.atomize b y atom)) :=
  .anyM h fun _ _ hm => (s.atomize hm atom).andThen fun _ => .ok rfl

theorem compareMembers {ms ms' ns ns' : List Member} (hm : List.Forall₂ M ms ms')
    (hn : List.Forall₂ M ns ns') (op : BinaryOp) :
    Agree E Eq (XPath.compare a op (.nodes ms) (.nodes ns))
      (XPath.compare b op (.nodes ms') (.nodes ns')) := by
  refine .anyM hm fun x x' hx => (s.stringValue x x' hx).andThen fun left => ?_
  exact .anyM hn fun y y' hy => (s.stringValue y y' hy).andThen fun _ => .ok rfl

theorem compare {v v' w w' : Value} (hv : ValueRel M v v') (hw : ValueRel M w w')
    (op : BinaryOp) : Agree E Eq (XPath.compare a op v w) (XPath.compare b op v' w') := by
  cases hv with
  | nodes hm =>
      cases hw with
      | nodes hn => exact s.compareMembers hm hn op
      | text content => exact s.compareLeft hm op (.text content)
      | number x => exact s.compareLeft hm op (.number x)
      | truth t =>
          simp only [XPath.compare, isEmpty_eq_of_forall₂ hm]
          exact .ok rfl
  | text content =>
      cases hw with
      | nodes hn => exact s.compareRight hn op (.text content)
      | text _ => exact .ok rfl
      | number _ => exact .ok rfl
      | truth _ => exact .ok rfl
  | number x =>
      cases hw with
      | nodes hn => exact s.compareRight hn op (.number x)
      | text _ => exact .ok rfl
      | number _ => exact .ok rfl
      | truth _ => exact .ok rfl
  | truth t =>
      cases hw with
      | nodes hn =>
          simp only [XPath.compare, isEmpty_eq_of_forall₂ hn]
          exact .ok rfl
      | text _ => exact .ok rfl
      | number _ => exact .ok rfl
      | truth _ => exact .ok rfl

section Operators

variable {l r : Except ε Value} {l' r' : Except ε' Value} (hl : Agree E (ValueRel M) l l')
  (hr : Agree E (ValueRel M) r r')
include hl hr

theorem arithmetic (op : Float → Float → Float) :
    Agree E SameAtom (applyBinary.arithmetic a l r op) (applyBinary.arithmetic b l' r' op) := by
  unfold applyBinary.arithmetic
  refine hl.bind fun v v' hv => (s.toNumber hv).andThen fun x => ?_
  exact hr.bind fun w w' hw => (s.toNumber hw).andThen fun y => .ok (.number _)

theorem applyBinary (op : BinaryOp) :
    Agree E SameAtom (XPath.applyBinary a op l r) (XPath.applyBinary b op l' r') := by
  have hcompare (op : BinaryOp) :
      Agree E SameAtom (do return .truth (← XPath.compare a op (← l) (← r)))
        (do return .truth (← XPath.compare b op (← l') (← r'))) :=
    hl.bind fun v v' hv => hr.bind fun w w' hw => (s.compare hv hw op).andThen fun _ =>
      .ok (.truth _)
  cases op with
  | or =>
      refine hl.bind fun v v' hv => ?_
      rw [hv.toTruth_eq]
      split
      · exact .ok (.truth _)
      · exact hr.bind fun w w' hw => .ok (hw.toTruth_eq ▸ .truth _)
  | and =>
      refine hl.bind fun v v' hv => ?_
      rw [hv.toTruth_eq]
      split
      · exact .ok (.truth _)
      · exact hr.bind fun w w' hw => .ok (hw.toTruth_eq ▸ .truth _)
  | add | sub | mul | div | mod => exact s.arithmetic hl hr _
  | eq | ne | lt | le | gt | ge => exact hcompare _

end Operators

/-! Predicates, steps and expressions. -/

theorem visitAll {visit : Member → Except ε (List Member)}
    {visit' : Member → Except ε' (List Member)}
    (hvisit : ∀ m m', M m m' → Agree E (List.Forall₂ M) (visit m) (visit' m'))
    {ms ns : List Member} (h : List.Forall₂ M ms ns) :
    Agree E (List.Forall₂ M) (XPath.visitAll visit ms) (XPath.visitAll visit' ns) := by
  refine (Agree.mapM h hvisit).bind fun found found' hfound => ?_
  exact .ok (s.documentOrder (List.rel_flatten hfound))

set_option linter.unusedSectionVars false in
mutual

/-- Related accesses give related values in related contexts. -/
theorem eval (e : Expr) (h : e.keepsTo axes fromRoot = true) {f g : Focus}
    (hfocus : FocusRel M f g) : Agree E (ValueRel M) (a.eval e f) (b.eval e g) := by
  match e with
  | .literal content => exact .ok (.text content)
  | .number x => exact .ok (.number x)
  | .negate operand =>
      refine (eval operand h hfocus).bind fun v w hv => ?_
      exact (s.toNumber hv).andThen fun _ => .ok (.number _)
  | .binary op left right =>
      obtain ⟨hleft, hright⟩ := Bool.and_eq_true_iff.mp h
      exact (s.applyBinary (eval left hleft hfocus) (eval right hright hfocus) op).imp
        fun _ _ => SameAtom.valueRel
  | .union left right =>
      obtain ⟨hleft, hright⟩ := Bool.and_eq_true_iff.mp h
      refine (eval left hleft hfocus).bind fun v v' hv => ?_
      refine (eval right hright hfocus).bind fun w w' hw => ?_
      cases hv with
      | nodes hms =>
          cases hw with
          | nodes hns => exact .ok (.nodes (s.documentOrder (List.rel_append hms hns)))
          | text _ | number _ | truth _ => exact .error (s.problem _)
      | text _ | number _ | truth _ => exact .error (s.problem _)
  | .function name args =>
      exact (s.call hfocus (evalArgs args h hfocus) name).imp fun _ _ => SameAtom.valueRel
  | .path absolute steps =>
      obtain ⟨habsolute, hsteps⟩ := Bool.and_eq_true_iff.mp h
      have hstart : M (if absolute then .node 0 else f.member)
          (if absolute then .node 0 else g.member) := by
        cases absolute with
        | true => exact s.root habsolute
        | false => exact hfocus.member
      exact (walk steps hsteps (.cons hstart .nil)).bind fun _ _ hms => .ok (.nodes hms)
  | .filter primary predicates steps =>
      obtain ⟨hprimary, hsteps⟩ := Bool.and_eq_true_iff.mp h
      obtain ⟨hprimary, hpredicates⟩ := Bool.and_eq_true_iff.mp hprimary
      refine (eval primary hprimary hfocus).bind fun v w hv => ?_
      cases hv with
      | nodes hms =>
          refine (narrow predicates hpredicates (s.documentOrder hms)).bind fun _ _ hkept => ?_
          exact (walk steps hsteps hkept).bind fun _ _ hms => .ok (.nodes hms)
      | text _ | number _ | truth _ => exact .error (s.problem _)

theorem evalArgs (args : List Expr) (h : exprsKeepTo axes fromRoot args = true) {f g : Focus}
    (hfocus : FocusRel M f g) :
    List.Forall₂ (Agree E (ValueRel M)) (a.evalArgs args f) (b.evalArgs args g) := by
  match args with
  | [] => exact .nil
  | arg :: args =>
      obtain ⟨harg, hargs⟩ := Bool.and_eq_true_iff.mp h
      exact .cons (eval arg harg hfocus) (evalArgs args hargs hfocus)

theorem narrow (predicates : List Expr) (h : exprsKeepTo axes fromRoot predicates = true)
    {ms ns : List Member} (hms : List.Forall₂ M ms ns) :
    Agree E (List.Forall₂ M) (a.narrow predicates ms) (b.narrow predicates ns) := by
  match predicates with
  | [] => exact .ok hms
  | p :: ps =>
      obtain ⟨hp, hps⟩ := Bool.and_eq_true_iff.mp h
      refine (agree_selectMembers (fun f g hfocus => eval p hp hfocus) hms).bind fun _ _ hkept => ?_
      exact narrow ps hps hkept

theorem walk (steps : List Step) (h : stepsKeepTo axes fromRoot steps = true)
    {ms ns : List Member} (hms : List.Forall₂ M ms ns) :
    Agree E (List.Forall₂ M) (a.walk steps ms) (b.walk steps ns) := by
  match steps with
  | [] => exact .ok hms
  | .mk axis test predicates :: rest =>
      obtain ⟨haxis, hrest⟩ := Bool.and_eq_true_iff.mp h
      obtain ⟨haxis, hpredicates⟩ := Bool.and_eq_true_iff.mp haxis
      refine (s.visitAll (fun m m' hm => ?_) hms).bind fun _ _ hfound => walk rest hrest hfound
      exact (s.candidates axis test m m' haxis hm).bind fun _ _ hlisted =>
        narrow predicates hpredicates hlisted

end

end Simulation

/-! An access simulates itself. -/

theorem agree_self {α : Type} {R : α → α → Prop} (hR : ∀ x, R x x) (o : Except ε α) :
    Agree (fun _ _ => True) R o o := by
  cases o with
  | ok x => exact .ok (hR x)
  | error p => exact .error trivial

theorem forall₂_self {α : Type} {R : α → α → Prop} (hR : ∀ x, R x x) (xs : List α) :
    List.Forall₂ R xs xs :=
  List.forall₂_same.mpr fun x _ => hR x

theorem ValueRel.self (v : Value) : ValueRel Eq v v := by
  cases v with
  | nodes members => exact .nodes (forall₂_self (fun _ => rfl) members)
  | text content => exact .text content
  | number x => exact .number x
  | truth b => exact .truth b

theorem Simulation.self (a : Access ε) :
    Simulation a a (fun _ => true) true (fun _ _ => True) Eq where
  order := by
    rintro x _ y _ rfl rfl
    rfl
  candidates := by
    rintro axis test m _ _ rfl
    exact agree_self (forall₂_self fun _ => rfl) _
  stringValue := by
    rintro m _ rfl
    exact agree_self (fun _ => rfl) _
  name := by
    rintro m _ rfl
    exact agree_self (fun _ => rfl) _
  problem _ := trivial
  root _ := rfl

/-- No function returns a node-set. -/
theorem call_ne_nodes {a : Access ε} {focus : Focus} {name : String}
    {args : List (Except ε Value)} {members : List Member} :
    call a focus name args ≠ .ok (.nodes members) := by
  intro h
  have hagree := (Simulation.self a).call (f := focus) (g := focus) ⟨rfl, rfl, rfl⟩
    (forall₂_self (fun arg => agree_self ValueRel.self arg) args) name
  rw [h] at hagree
  cases hagree with
  | ok h => cases h

/-- No operator but the union returns a node-set. -/
theorem applyBinary_ne_nodes {a : Access ε} {op : BinaryOp} {left right : Except ε Value}
    {members : List Member} : applyBinary a op left right ≠ .ok (.nodes members) := by
  intro h
  have hagree := (Simulation.self a).applyBinary (agree_self ValueRel.self left)
    (agree_self ValueRel.self right) op
  rw [h] at hagree
  cases hagree with
  | ok h => cases h

end Harvest.XPath
