import Harvest.Proofs.XPath.Checked
import Harvest.Proofs.XPath.Order

/-!
What a double slash stands for.

A double slash is a step of its own, which leads to a member and to all that is below it; the step
behind it then leads from each of these. What is below a node is below many of them, so the same
nodes are found again and again, in another order than on the descendant axis. But a step puts what
it finds in document order, each member once, and that depends only on which members are found.
-/

namespace Harvest.Markup.Document

/-- What is below a node are the children of the node and of all that is below it. -/
theorem mem_descendants_iff_child {d : Document} {n k : Nat} :
    k ∈ d.descendants n ↔ ∃ j ∈ n :: d.descendants n, k ∈ d.children j := by
  induction n using descendants.induct d with
  | case1 n ih =>
      have hmem {j : Nat} : j ∈ d.descendants n ↔ ∃ c ∈ d.children n, j ∈ c :: d.descendants c := by
        rw [descendants_eq, List.mem_flatMap]
      constructor
      · intro hk
        obtain ⟨c, hc, hk⟩ := hmem.mp hk
        rcases List.mem_cons.mp hk with rfl | hk
        · exact ⟨n, List.mem_cons_self, hc⟩
        · obtain ⟨j, hj, hkj⟩ := (ih c hc).mp hk
          exact ⟨j, List.mem_cons_of_mem n (hmem.mpr ⟨c, hc, hj⟩), hkj⟩
      · rintro ⟨j, hj, hkj⟩
        rcases List.mem_cons.mp hj with rfl | hj
        · exact hmem.mpr ⟨k, hkj, List.mem_cons_self⟩
        · obtain ⟨c, hc, hj⟩ := hmem.mp hj
          exact hmem.mpr ⟨c, hc, List.mem_cons_of_mem c ((ih c hc).mpr ⟨j, hj, hkj⟩)⟩

end Harvest.Markup.Document

namespace Harvest.XPath

open Harvest.Markup

theorem Access.walk_append {ε : Type} (a : Access ε) (first rest : List Step)
    (ms : List Member) : a.walk (first ++ rest) ms = a.walk first ms >>= a.walk rest := by
  induction first generalizing ms with
  | nil => rfl
  | cons step first ih =>
      obtain ⟨axis, test, predicates⟩ := step
      rw [List.cons_append, walk, walk]
      cases visitAll (fun m => do a.narrow predicates (← a.candidates axis test m)) ms with
      | error problem => rfl
      | ok found => exact ih found

variable {d : Document} {test : NodeTest}

/-- A step without predicates cannot fail. -/
theorem walk_cons_of_no_predicates (axis : Axis) (rest : List Step) (ms : List Member) :
    (Access.trusting d).walk (.mk axis test [] :: rest) ms =
      (Access.trusting d).walk rest (documentOrder (ms.flatMap (candidates d axis test))) := by
  have hvisit : ms.mapM (fun m => do
      (Access.trusting d).narrow [] (← (Access.trusting d).candidates axis test m)) =
      .ok (ms.map (candidates d axis test)) := by
    refine mapM_eq_ok fun m _ => ?_
    show (Access.trusting d).narrow [] (candidates d axis test m) = _
    rw [Access.narrow]
  rw [Access.walk, visitAll, hvisit, List.flatMap_def]
  rfl

/-- Only the attribute axis looks for the names of attributes, so all other ones ask the same. -/
theorem passes_congr {axis axis' : Axis} (h : axis ≠ .attributes) (h' : axis' ≠ .attributes)
    (m : Member) : passes d axis test m = passes d axis' test m := by
  have hne : (axis == .attributes) = false := beq_eq_false_iff_ne.mpr h
  have hne' : (axis' == .attributes) = false := beq_eq_false_iff_ne.mpr h'
  have hbne : (axis != .attributes) = (axis' != .attributes) := by rw [bne, bne, hne, hne']
  cases m with
  | node id => simp only [passes, hbne]
  | attr owner index => simp only [passes, hne, hne']

theorem mem_candidates_node {axis : Axis} (haxis : axis ≠ .attributes) {id : Nat} {m : Member} :
    m ∈ candidates d axis test (.node id) ↔
      (∃ k ∈ nodesOn d axis id, .node k = m) ∧ passes d axis test m = true := by
  rw [candidates, List.mem_filter, axisMembers_node haxis, List.mem_map]

/-- The children of a member and of all that is below it are what is below the member. -/
theorem mem_candidates_descendant_iff {x m : Member} :
    m ∈ candidates d .descendant test x ↔
      ∃ y ∈ candidates d .descendantOrSelf .node x, m ∈ candidates d .child test y := by
  cases x with
  | attr owner index => simp [candidates, axisMembers]
  | node id =>
      have hself {y : Member} : y ∈ candidates d .descendantOrSelf .node (.node id) ↔
          ∃ j ∈ id :: d.descendants id, .node j = y := by
        rw [mem_candidates_node (by decide)]
        refine and_iff_left_of_imp ?_
        rintro ⟨j, -, rfl⟩
        rfl
      have hchild {j : Nat} : m ∈ candidates d .child test (.node j) ↔
          (∃ k ∈ d.children j, .node k = m) ∧ passes d .descendant test m = true := by
        have hpasses : passes d .child test m = passes d .descendant test m :=
          passes_congr (by decide) (by decide) m
        rw [mem_candidates_node (by decide), hpasses, nodesOn]
      rw [mem_candidates_node (by decide), nodesOn]
      constructor
      · rintro ⟨⟨k, hk, rfl⟩, hpasses⟩
        obtain ⟨j, hj, hkj⟩ := Document.mem_descendants_iff_child.mp hk
        exact ⟨.node j, hself.mpr ⟨j, hj, rfl⟩, hchild.mpr ⟨⟨k, hkj, rfl⟩, hpasses⟩⟩
      · rintro ⟨y, hy, hm⟩
        obtain ⟨j, hj, rfl⟩ := hself.mp hy
        obtain ⟨⟨k, hkj, rfl⟩, hpasses⟩ := hchild.mp hm
        exact ⟨⟨k, Document.mem_descendants_iff_child.mpr ⟨j, hj, hkj⟩, rfl⟩, hpasses⟩

/-- The two steps find what the one step finds. -/
theorem documentOrder_anyDepth (ms : List Member) :
    documentOrder ((documentOrder (ms.flatMap (candidates d .descendantOrSelf .node))).flatMap
        (candidates d .child test)) =
      documentOrder (ms.flatMap (candidates d .descendant test)) := by
  refine documentOrder_eq_of_mem_iff fun m => ?_
  simp only [List.mem_flatMap, mem_documentOrder, mem_candidates_descendant_iff]
  constructor
  · rintro ⟨y, ⟨x, hx, hy⟩, hm⟩
    exact ⟨x, hx, y, hy, hm⟩
  · rintro ⟨x, hx, y, hy, hm⟩
    exact ⟨y, ⟨x, hx, hy⟩, hm⟩

theorem walk_anyDepth (before after : List Step) (starts : List Member) :
    (Access.trusting d).walk (before ++ .anyDepth :: .mk .child test [] :: after) starts =
      (Access.trusting d).walk (before ++ .mk .descendant test [] :: after) starts := by
  have hstep (ms : List Member) :
      (Access.trusting d).walk (.anyDepth :: .mk .child test [] :: after) ms =
        (Access.trusting d).walk (.mk .descendant test [] :: after) ms := by
    rw [Step.anyDepth, walk_cons_of_no_predicates, walk_cons_of_no_predicates,
      walk_cons_of_no_predicates, documentOrder_anyDepth]
  rw [Access.walk_append, Access.walk_append]
  cases (Access.trusting d).walk before starts with
  | error problem => rfl
  | ok ms => exact hstep ms

/-- Whatever a path begins and ends with, and from wherever it is walked, a double slash before a
child step without predicates is the descendant axis: the walk fails in the same way or leads to the
same members, and so does the path. -/
theorem anyDepth_child_eq_descendant (d : Document) (test : NodeTest) (before after : List Step) :
    (∀ starts, (Access.trusting d).walk (before ++ .anyDepth :: .mk .child test [] :: after) starts =
        (Access.trusting d).walk (before ++ .mk .descendant test [] :: after) starts) ∧
      ∀ absolute focus,
        eval d (.path absolute (before ++ .anyDepth :: .mk .child test [] :: after)) focus =
          eval d (.path absolute (before ++ .mk .descendant test [] :: after)) focus := by
  refine ⟨walk_anyDepth before after, fun absolute focus => ?_⟩
  rw [eval, eval, Access.eval, Access.eval, walk_anyDepth]

end Harvest.XPath
