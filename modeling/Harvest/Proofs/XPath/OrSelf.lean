import Harvest.Proofs.XPath.AnyDepth
import Harvest.Proofs.XPath.NodeSets

/-!
Axes that include the member itself.

The axis of what is above a member and the axis of what is below it have a second form with the
member in front. For nodes both forms differ in nothing else. For attributes this holds of what is
above them only: nothing is below an attribute, and the second form leaves out the attribute as
well. A double slash stands for a step on this form, so behind an attribute it leads nowhere.
-/

namespace Harvest.XPath

open Harvest.Markup

def Expr.step (axis : Axis) (test : NodeTest) : Expr := .path false [.mk axis test []]

/-- At a member, an axis leads to the member itself, to what a plain axis leads to, and nowhere
else. -/
def AddsSelf (d : Document) (orSelf plain : Axis) (m : Member) : Prop :=
  ∀ x, x ∈ axisMembers d orSelf m ↔ x = m ∨ x ∈ axisMembers d plain m

section Axes

variable (d : Document)

theorem axisMembers_ancestorOrSelf (m : Member) :
    axisMembers d .ancestorOrSelf m = m :: axisMembers d .ancestor m := by
  cases m with
  | node id => rfl
  | attr owner index => rfl

theorem axisMembers_descendantOrSelf_node (id : Nat) :
    axisMembers d .descendantOrSelf (.node id) = .node id :: axisMembers d .descendant (.node id) :=
  rfl

theorem axisMembers_descendantOrSelf_attr (owner index : Nat) :
    axisMembers d .descendantOrSelf (.attr owner index) = [] := rfl

theorem addsSelf_ancestorOrSelf (m : Member) : AddsSelf d .ancestorOrSelf .ancestor m := by
  intro x
  rw [axisMembers_ancestorOrSelf, List.mem_cons]

theorem addsSelf_descendantOrSelf_iff (m : Member) :
    AddsSelf d .descendantOrSelf .descendant m ↔ ∃ id, m = .node id := by
  cases m with
  | node id =>
      refine iff_of_true (fun x => ?_) ⟨id, rfl⟩
      rw [axisMembers_descendantOrSelf_node, List.mem_cons]
  | attr owner index =>
      refine iff_of_false (fun hadds => ?_) (by simp)
      have hself := (hadds (.attr owner index)).mpr (.inl rfl)
      rw [axisMembers_descendantOrSelf_attr] at hself
      cases hself

end Axes

section Paths

variable {d : Document} {orSelf plain : Axis} {test : NodeTest}

theorem eval_step (d : Document) (axis : Axis) (test : NodeTest) (focus : Focus) :
    eval d (.step axis test) focus =
      .ok (.nodes (documentOrder (candidates d axis test focus.member))) := by
  have hwalk : (Access.trusting d).walk [.mk axis test []] [focus.member] =
      .ok (documentOrder (candidates d axis test focus.member)) := by
    rw [walk_cons_of_no_predicates, List.flatMap_singleton, Access.walk]
  rw [eval, Expr.step, Access.eval]
  simp only [Bool.false_eq_true, if_false, hwalk]
  rfl

theorem mem_candidates_of_addsSelf (horSelf : orSelf ≠ .attributes) (hplain : plain ≠ .attributes)
    {m x : Member} (hadds : AddsSelf d orSelf plain m) :
    x ∈ candidates d orSelf test m ↔
      x ∈ candidates d .self test m ∨ x ∈ candidates d plain test m := by
  have hself : x ∈ axisMembers d .self m ↔ x = m := by
    cases m <;> simp [axisMembers, nodesOn]
  rw [candidates, candidates, candidates, List.mem_filter, List.mem_filter, List.mem_filter,
    hadds, hself, passes_congr horSelf (by decide : Axis.self ≠ .attributes),
    passes_congr hplain (by decide : Axis.self ≠ .attributes), or_and_right]

/-- Where an axis adds the member itself, a step on it is the union of the two steps, whatever its
node test. -/
theorem eval_orSelf_eq_union (horSelf : orSelf ≠ .attributes) (hplain : plain ≠ .attributes)
    {focus : Focus} (hadds : AddsSelf d orSelf plain focus.member) :
    eval d (.step orSelf test) focus =
      eval d (.union (.step .self test) (.step plain test)) focus := by
  have hunion := Access.eval_union_eq_ok.mpr
    ⟨_, _, eval_step d .self test focus, eval_step d plain test focus, rfl⟩
  rw [eval_step]
  refine Eq.trans ?_ hunion.symm
  congr 2
  refine documentOrder_eq_of_mem_iff fun x => ?_
  rw [List.mem_append, mem_documentOrder, mem_documentOrder,
    mem_candidates_of_addsSelf horSelf hplain hadds]

theorem documentOrder_nil : documentOrder [] = [] := by
  rw [documentOrder, List.mergeSort_nil]
  rfl

theorem walk_nil (steps : List Step) : (Access.trusting d).walk steps [] = .ok [] := by
  induction steps with
  | nil => rfl
  | cons step steps ih =>
      obtain ⟨axis, test, predicates⟩ := step
      have hvisit (visit : Member → Except EvalProblem (List Member)) :
          visitAll visit [] = .ok [] := congrArg Except.ok documentOrder_nil
      rw [Access.walk, hvisit]
      exact ih

/-- Behind an attribute a double slash leads nowhere, whatever comes after it. -/
theorem walk_anyDepth_attr (owner index : Nat) (after : List Step) :
    (Access.trusting d).walk (.anyDepth :: after) [.attr owner index] = .ok [] := by
  have hnone : candidates d .descendantOrSelf .node (.attr owner index) = [] := rfl
  rw [Step.anyDepth, walk_cons_of_no_predicates, List.flatMap_singleton, hnone, documentOrder_nil]
  exact walk_nil after

end Paths

/-- The axis of what is above a member, with the member, leads to the member and to what is above
it, for nodes and attributes alike, and a step on it is the union of a step on the spot and a step
up. For the axis of what is below a member the like holds of nodes, and not of attributes. -/
theorem orSelf_axes_add_self_iff (d : Document) :
    (∀ m, AddsSelf d .ancestorOrSelf .ancestor m) ∧
      (∀ m, AddsSelf d .descendantOrSelf .descendant m ↔ ∃ id, m = .node id) ∧
      (∀ test focus, eval d (.step .ancestorOrSelf test) focus =
        eval d (.union (.step .self test) (.step .ancestor test)) focus) ∧
      ∀ test id position size, eval d (.step .descendantOrSelf test) ⟨.node id, position, size⟩ =
        eval d (.union (.step .self test) (.step .descendant test)) ⟨.node id, position, size⟩ := by
  refine ⟨addsSelf_ancestorOrSelf d, addsSelf_descendantOrSelf_iff d, fun test focus => ?_,
    fun test id position size => ?_⟩
  · exact eval_orSelf_eq_union (by decide) (by decide) (addsSelf_ancestorOrSelf d focus.member)
  · have hadds := (addsSelf_descendantOrSelf_iff d (.node id)).mpr ⟨id, rfl⟩
    exact eval_orSelf_eq_union (by decide) (by decide) hadds

def labelled : Document := (Builder.run [.openElement "p" [("id", "1")]]).document

/-- An attribute is not among itself and what is below it, so a path that goes on from the attribute
by this axis finds nothing, though it comes to the attribute. -/
theorem attribute_off_its_orSelf_axis :
    HasMember labelled (.attr 1 0) ∧
      ¬ AddsSelf labelled .descendantOrSelf .descendant (.attr 1 0) ∧
      eval labelled (.step .attributes .any) ⟨.node 1, 1, 1⟩ = .ok (.nodes [.attr 1 0]) ∧
      eval labelled (.path false [.mk .attributes .any [], .mk .descendantOrSelf .node []])
          ⟨.node 1, 1, 1⟩ = .ok (.nodes []) := by
  refine ⟨by decide, ?_, by cbv, by cbv⟩
  rw [addsSelf_descendantOrSelf_iff]
  simp

end Harvest.XPath
