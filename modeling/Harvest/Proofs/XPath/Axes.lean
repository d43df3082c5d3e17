import Harvest.Proofs.XPath.Checked
import Harvest.Proofs.XPath.Order
import Mathlib

/-!
How the axes share out a tree, and in which order they list it.

As seen from a node, the place of another node is told by two comparisons: whose number is smaller,
and whether the greater one lies in the interval of numbers that begins with the smaller one. So
every node lies on exactly one of five axes. An attribute is no node of the tree; seen from it, its
owner is an ancestor and what is below its owner follows.
-/

namespace Harvest.XPath

open Harvest.Markup

variable {d : Document}

def axisTo (d : Document) (id j : Nat) : Axis :=
  if j = id then .self
  else if j < id then
    if id ≤ d.subtreeEnd j then .ancestor else .preceding
  else if j ≤ d.subtreeEnd id then .descendant else .following

def Member.axisTo (d : Document) (m : Member) (j : Nat) : Axis :=
  match m with
  | .node id => XPath.axisTo d id j
  | .attr owner _ =>
    match XPath.axisTo d owner j with
    | .self => .ancestor
    | .descendant => .following
    | axis => axis

/-- The axes that share out the nodes of the tree as seen from a member. -/
def Member.treeAxes : Member → List Axis
  | .node _ => [.self, .ancestor, .descendant, .preceding, .following]
  | .attr _ _ => [.ancestor, .preceding, .following]

theorem Member.nodup_treeAxes (m : Member) : m.treeAxes.Nodup := by
  cases m <;> simp [treeAxes]

theorem axisTo_mem (d : Document) (id j : Nat) :
    axisTo d id j ∈ [.self, .ancestor, .descendant, .preceding, .following] := by
  unfold axisTo
  split
  · simp
  · split <;> split <;> simp

theorem Member.axisTo_mem_treeAxes (m : Member) (j : Nat) : m.axisTo d j ∈ m.treeAxes := by
  cases m with
  | node id => exact axisTo_mem d id j
  | attr owner index =>
      have hmem := axisTo_mem d owner j
      simp only [Member.axisTo, Member.treeAxes]
      generalize XPath.axisTo d owner j = axis at hmem
      cases axis <;> simp_all

section Places

variable (h : d.Preorder)
include h

/-- Each of the five axes lists the nodes that lie on it. -/
theorem mem_nodesOn_iff {id : Nat} (hid : id < d.size) {axis : Axis}
    (haxis : axis ∈ [Axis.self, .ancestor, .descendant, .preceding, .following]) {j : Nat} :
    j ∈ nodesOn d axis id ↔ j < d.size ∧ axisTo d id j = axis := by
  have hend := h.le_subtreeEnd_self id
  have hlast := (h.within_subtreeEnd id).lt_size hid
  have habove : j ∈ d.ancestors id ↔ j < id ∧ id ≤ d.subtreeEnd j := by
    rw [Document.mem_ancestors_iff, h.within_iff]
    omega
  have hroot : id ≤ d.subtreeEnd 0 := h.le_subtreeEnd (h.within_root hid)
  simp only [List.mem_cons, List.not_mem_nil, or_false] at haxis
  rcases haxis with rfl | rfl | rfl | rfl | rfl
  · rw [nodesOn, List.mem_singleton, axisTo]
    split <;> grind
  · rw [nodesOn, habove, axisTo]
    grind
  · rw [nodesOn, h.descendants_eq_range', List.mem_range'_1, axisTo]
    grind
  · -- The root is above every other node, so that it may be left out from the start.
    have hpos : j = 0 → id ≤ d.subtreeEnd j := fun hj => hj ▸ hroot
    rw [nodesOn, List.mem_filter, List.mem_reverse, List.mem_range'_1, Bool.not_eq_true',
      List.contains_eq_mem, decide_eq_false_iff_not, habove, axisTo]
    grind
  · rw [nodesOn, List.mem_range'_1, axisTo]
    grind

/-- On each of its axes a member finds the nodes of the tree that lie there, and no attributes. -/
theorem mem_axisMembers_iff {m : Member} (hm : HasMember d m) {axis : Axis}
    (haxis : axis ∈ m.treeAxes) {x : Member} :
    x ∈ axisMembers d axis m ↔ ∃ j, j < d.size ∧ x = .node j ∧ m.axisTo d j = axis := by
  -- Every such list is made of lists of nodes, so only the numbers of the nodes matter.
  have hmap {ids : List Nat} (hids : ∀ j, j ∈ ids ↔ j < d.size ∧ m.axisTo d j = axis) :
      x ∈ ids.map .node ↔ ∃ j, j < d.size ∧ x = .node j ∧ m.axisTo d j = axis := by
    rw [List.mem_map]
    constructor
    · rintro ⟨j, hj, rfl⟩
      obtain ⟨hlt, haxis⟩ := (hids j).mp hj
      exact ⟨j, hlt, rfl, haxis⟩
    · rintro ⟨j, hlt, rfl, haxis⟩
      exact ⟨j, (hids j).mpr ⟨hlt, haxis⟩, rfl⟩
  cases m with
  | node id =>
      have hattributes : axis ≠ .attributes := by
        rintro rfl
        simp [Member.treeAxes] at haxis
      rw [axisMembers_node hattributes]
      exact hmap fun j => mem_nodesOn_iff h hm haxis
  | attr owner index =>
      have hlies (axis : Axis)
          (haxis : axis ∈ [Axis.self, .ancestor, .descendant, .preceding, .following]) (j : Nat) :
          j ∈ nodesOn d axis owner ↔ j < d.size ∧ XPath.axisTo d owner j = axis :=
        mem_nodesOn_iff h hm.1 haxis
      simp only [Member.treeAxes, List.mem_cons, List.not_mem_nil, or_false] at haxis
      rcases haxis with rfl | rfl | rfl
      · refine hmap (show ∀ j, j ∈ nodesOn d .self owner ++ nodesOn d .ancestor owner ↔ _ from
          fun j => ?_)
        rw [List.mem_append, hlies .self (by simp), hlies .ancestor (by simp), Member.axisTo]
        cases XPath.axisTo d owner j <;> simp
      · refine hmap (show ∀ j, j ∈ nodesOn d .preceding owner ↔ _ from fun j => ?_)
        rw [hlies .preceding (by simp), Member.axisTo]
        cases XPath.axisTo d owner j <;> simp
      · refine hmap (show ∀ j, j ∈ nodesOn d .descendant owner ++ nodesOn d .following owner ↔ _ from
          fun j => ?_)
        rw [List.mem_append, hlies .descendant (by simp), hlies .following (by simp), Member.axisTo]
        cases XPath.axisTo d owner j <;> simp

/-- No two of the axes that share out the tree have a node in common. -/
theorem pairwise_disjoint_treeAxes {m : Member} (hm : HasMember d m) :
    (m.treeAxes.map fun axis => axisMembers d axis m).Pairwise List.Disjoint := by
  rw [List.pairwise_map]
  refine List.Pairwise.imp_of_mem ?_ m.nodup_treeAxes
  intro axis axis' haxis haxis' hne x hx hx'
  obtain ⟨j, _, rfl, hj⟩ := (mem_axisMembers_iff h hm haxis).mp hx
  obtain ⟨j', _, heq, hj'⟩ := (mem_axisMembers_iff h hm haxis').mp hx'
  cases heq
  exact hne (hj.symm.trans hj')

theorem exists_treeAxes_iff {m : Member} (hm : HasMember d m) {x : Member} :
    (∃ axis ∈ m.treeAxes, x ∈ axisMembers d axis m) ↔ ∃ j, j < d.size ∧ x = .node j := by
  constructor
  · rintro ⟨axis, haxis, hx⟩
    obtain ⟨j, hlt, rfl, _⟩ := (mem_axisMembers_iff h hm haxis).mp hx
    exact ⟨j, hlt, rfl⟩
  · rintro ⟨j, hlt, rfl⟩
    have hmem := m.axisTo_mem_treeAxes (d := d) j
    exact ⟨m.axisTo d j, hmem, (mem_axisMembers_iff h hm hmem).mpr ⟨j, hlt, rfl, rfl⟩⟩

end Places

/-! The order of an axis. -/

/-- Whether one member comes before another one in the order of an axis: document order, or the
contrary on a reverse axis. -/
def Axis.Precedes (axis : Axis) (x y : Member) : Prop :=
  if axis.isReverse then y.Before x else x.Before y

theorem before_node_iff {i j : Nat} : (Member.node i).Before (.node j) ↔ i < j := by
  simp [Member.before_iff, Member.orderKey]

theorem Axis.pairwise_precedes_map_node {axis : Axis} {ids : List Nat}
    (h : ids.Pairwise fun i j => if axis.isReverse then i > j else i < j) :
    (ids.map Member.node).Pairwise axis.Precedes := by
  rw [List.pairwise_map]
  refine h.imp fun {i j} hij => ?_
  unfold Axis.Precedes
  split
  · next hreverse =>
    rw [if_pos hreverse] at hij
    exact before_node_iff.mpr hij
  · next hforward =>
    rw [if_neg hforward] at hij
    exact before_node_iff.mpr hij

theorem Axis.not_precedes_self (axis : Axis) (x : Member) : ¬ axis.Precedes x x := by
  unfold Axis.Precedes
  split <;> simp [Member.before_iff]

theorem pairwise_gt_reverse_range' (start length : Nat) :
    (List.range' start length).reverse.Pairwise (· > ·) :=
  List.pairwise_reverse.mpr List.pairwise_lt_range'

section Ordered

variable (h : d.Preorder)
include h

/-- The nodes below a node and those that follow it, in one list, are in document order. -/
theorem pairwise_descendants_append_following (id : Nat) :
    (nodesOn d .descendant id ++ nodesOn d .following id).Pairwise (· < ·) := by
  have hend := h.le_subtreeEnd_self id
  rw [nodesOn, nodesOn, h.descendants_eq_range']
  refine List.pairwise_append.mpr ⟨List.pairwise_lt_range', List.pairwise_lt_range', ?_⟩
  intro i hi j hj
  rw [List.mem_range'_1] at hi hj
  omega

theorem pairwise_nodesOn (axis : Axis) (id : Nat) :
    (nodesOn d axis id).Pairwise fun i j => if axis.isReverse then i > j else i < j := by
  cases axis with
  | child => exact h.pairwise_children id
  | descendant => exact (List.pairwise_append.mp (pairwise_descendants_append_following h id)).1
  | descendantOrSelf =>
      refine List.pairwise_cons.mpr ⟨fun j hj => ?_, ?_⟩
      · rw [h.descendants_eq_range', List.mem_range'_1] at hj
        exact hj.1
      · exact (List.pairwise_append.mp (pairwise_descendants_append_following h id)).1
  | parent =>
      rw [nodesOn]
      cases d.parent? id with
      | none => exact .nil
      | some p => exact List.pairwise_singleton _ _
  | ancestor => exact (List.pairwise_cons.mp (d.pairwise_ancestors id)).2
  | ancestorOrSelf => exact d.pairwise_ancestors id
  | self => exact List.pairwise_singleton _ _
  | attributes => exact .nil
  | followingSibling =>
      rw [nodesOn]
      cases d.parent? id with
      | none => exact .nil
      | some p =>
          have hsublist : ((d.children p).dropWhile (· != id)).tail.Sublist (d.children p) :=
            (List.tail_sublist _).trans (List.dropWhile_sublist _)
          exact (h.pairwise_children p).sublist hsublist
  | precedingSibling =>
      rw [nodesOn]
      cases d.parent? id with
      | none => exact .nil
      | some p =>
          have hsublist : ((d.children p).takeWhile (· != id)).Sublist (d.children p) :=
            List.takeWhile_sublist _
          exact List.pairwise_reverse.mpr ((h.pairwise_children p).sublist hsublist)
  | following => exact List.pairwise_lt_range'
  | preceding => exact (pairwise_gt_reverse_range' _ _).filter _

/-- Every axis of every member is listed in the order of the axis. -/
theorem pairwise_axisMembers (axis : Axis) (m : Member) :
    (axisMembers d axis m).Pairwise axis.Precedes := by
  have hnodes (axis : Axis) (id : Nat) : ((nodesOn d axis id).map Member.node).Pairwise axis.Precedes :=
    Axis.pairwise_precedes_map_node (pairwise_nodesOn h axis id)
  cases m with
  | node id =>
      by_cases hattributes : axis = .attributes
      · subst hattributes
        rw [axisMembers, List.pairwise_map]
        refine List.pairwise_lt_range.imp fun {i j} hij => ?_
        simp [Axis.Precedes, Axis.isReverse, Member.before_iff, Member.orderKey, hij]
      · rw [axisMembers_node hattributes]
        exact hnodes axis id
  | attr owner index =>
      cases axis with
      | parent | self => exact List.pairwise_singleton _ _
      | ancestor => exact hnodes .ancestorOrSelf owner
      | ancestorOrSelf =>
          refine List.pairwise_cons.mpr ⟨fun x hx => ?_, hnodes .ancestorOrSelf owner⟩
          -- An attribute comes after its owner, and so after all that the owner is in.
          obtain ⟨j, hj, rfl⟩ := List.mem_map.mp hx
          have hle : j ≤ owner := by
            rcases List.mem_cons.mp hj with rfl | hj
            · exact Nat.le_refl _
            · exact (Document.within_of_mem_ancestors hj).le
          simp only [Axis.Precedes, Axis.isReverse, if_true, Member.before_iff, Member.orderKey]
          omega
      | following =>
          exact Axis.pairwise_precedes_map_node (pairwise_descendants_append_following h owner)
      | preceding => exact hnodes .preceding owner
      | child | descendant | descendantOrSelf | attributes | followingSibling
      | precedingSibling => exact .nil

theorem nodup_axisMembers (axis : Axis) (m : Member) : (axisMembers d axis m).Nodup :=
  (pairwise_axisMembers h axis m).imp fun hxy heq => by
    subst heq
    exact axis.not_precedes_self _ hxy

end Ordered

/-- In a document of a builder each node lies on exactly one of the axes self, ancestor, descendant,
preceding and following of a node, and on exactly one of ancestor, preceding and following of an
attribute. Every axis of a node or an attribute lists its members once, in document order, or
nearest first where it is a reverse one. -/
theorem axes_share_tree (steps : List BuildStep) (m : Member)
    (hm : HasMember (Builder.run steps).document m) :
    (m.treeAxes.map fun axis => axisMembers (Builder.run steps).document axis m).Pairwise
        List.Disjoint ∧
      (∀ x, (∃ axis ∈ m.treeAxes, x ∈ axisMembers (Builder.run steps).document axis m) ↔
        ∃ j, j < (Builder.run steps).document.size ∧ x = .node j) ∧
      ∀ axis, (axisMembers (Builder.run steps).document axis m).Nodup ∧
        (axisMembers (Builder.run steps).document axis m).Pairwise fun x y =>
          if axis.isReverse then y.Before x else x.Before y := by
  have h := (Builder.wellFormed_run steps).preorder
  exact ⟨pairwise_disjoint_treeAxes h hm, fun x => exists_treeAxes_iff h hm,
    fun axis => ⟨nodup_axisMembers h axis m, pairwise_axisMembers h axis m⟩⟩

/-- Seen from the attribute of a list item, its list and the item itself are above it, the item
before it precedes it, and its own text and the item after it follow it. -/
theorem axes_share_tree_attribute :
    (([Axis.ancestor, .preceding, .following].map fun axis =>
        axisMembers (Builder.run [.openElement "ul" [], .openElement "li" [], .closeCurrent,
          .openElement "li" [("id", "1")], .text "a", .closeCurrent, .openElement "li" []]).document
          axis (.attr 3 0)) =
        [[.node 3, .node 1, .node 0], [.node 2], [.node 4, .node 5]]) ∧
      [[Member.node 3, .node 1, .node 0], [.node 2], [.node 4, .node 5]].Pairwise
        List.Disjoint := by
  have hlists : ([Axis.ancestor, .preceding, .following].map fun axis =>
      axisMembers (Builder.run [.openElement "ul" [], .openElement "li" [], .closeCurrent,
        .openElement "li" [("id", "1")], .text "a", .closeCurrent, .openElement "li" []]).document
        axis (.attr 3 0)) =
      [[.node 3, .node 1, .node 0], [.node 2], [.node 4, .node 5]] := by
    cbv
  refine ⟨hlists, ?_⟩
  rw [← hlists]
  exact (axes_share_tree _ (.attr 3 0) (by decide)).1

end Harvest.XPath
