import Harvest.Proofs.XPath.Axes

/-!
Axes that lead back.

Every axis of a node has an opposite one, on which the way back lies. Each of the two is listed by
an algorithm of its own, a recursion against a walk up, a range against a filter, the rest of a list
against its beginning; but where a node lies as seen from another one is told by the same two
comparisons of numbers in both directions, and the children of a node stand in the order of their
numbers.
-/

namespace Harvest.XPath

open Harvest.Markup

/-- The axis that leads back. The attribute axis leads to no node of the tree and is its own. -/
def Axis.opposite : Axis → Axis
  | .child => .parent
  | .parent => .child
  | .descendant => .ancestor
  | .ancestor => .descendant
  | .descendantOrSelf => .ancestorOrSelf
  | .ancestorOrSelf => .descendantOrSelf
  | .followingSibling => .precedingSibling
  | .precedingSibling => .followingSibling
  | .following => .preceding
  | .preceding => .following
  | .self => .self
  | .attributes => .attributes

@[simp] theorem Axis.opposite_opposite (axis : Axis) : axis.opposite.opposite = axis := by
  cases axis <;> rfl

section Increasing

variable {ids : List Nat} {x y : Nat}

/-- A member of an increasing list parts the smaller ones from the greater ones. -/
theorem exists_parts_of_mem (hids : ids.Pairwise (· < ·)) (hx : x ∈ ids) :
    ∃ before after, ids = before ++ x :: after ∧ (∀ z ∈ before, z < x) ∧ ∀ z ∈ after, x < z := by
  obtain ⟨before, after, rfl⟩ := List.append_of_mem hx
  obtain ⟨_, hafter, hbefore⟩ := List.pairwise_append.mp hids
  exact ⟨before, after, rfl, fun z hz => hbefore z hz x List.mem_cons_self,
    (List.pairwise_cons.mp hafter).1⟩

/-- What stands behind a member of an increasing list is what is greater. -/
theorem mem_tail_dropWhile_iff (hids : ids.Pairwise (· < ·)) (hx : x ∈ ids) :
    y ∈ (ids.dropWhile (· != x)).tail ↔ y ∈ ids ∧ x < y := by
  obtain ⟨before, after, rfl, hless, hgreater⟩ := exists_parts_of_mem hids hx
  have hbefore : ∀ z ∈ before, (z != x) = true := fun z hz => bne_iff_ne.mpr (hless z hz).ne
  rw [List.dropWhile_append_of_pos hbefore, List.dropWhile_cons_of_neg (by simp), List.tail_cons,
    List.mem_append, List.mem_cons]
  constructor
  · exact fun hy => ⟨.inr (.inr hy), hgreater y hy⟩
  · rintro ⟨hy | rfl | hy, hxy⟩
    · exact absurd hxy (hless y hy).asymm
    · exact absurd hxy (Nat.lt_irrefl _)
    · exact hy

/-- What stands before a member of an increasing list is what is less. -/
theorem mem_takeWhile_iff (hids : ids.Pairwise (· < ·)) (hy : y ∈ ids) :
    x ∈ ids.takeWhile (· != y) ↔ x ∈ ids ∧ x < y := by
  obtain ⟨before, after, rfl, hless, hgreater⟩ := exists_parts_of_mem hids hy
  have hbefore : ∀ z ∈ before, (z != y) = true := fun z hz => bne_iff_ne.mpr (hless z hz).ne
  rw [List.takeWhile_append_of_pos hbefore, List.takeWhile_cons_of_neg (by simp), List.append_nil,
    List.mem_append, List.mem_cons]
  constructor
  · exact fun hx => ⟨.inl hx, hless x hx⟩
  · rintro ⟨hx | rfl | hx, hxy⟩
    · exact hx
    · exact absurd hxy (Nat.lt_irrefl _)
    · exact absurd hxy (hgreater x hx).asymm

end Increasing

variable {d : Document} {x y : Nat}

/-- The way back from a node lies on the opposite axis. -/
theorem axisTo_swap (d : Document) (x y : Nat) : axisTo d y x = (axisTo d x y).opposite := by
  rcases Nat.lt_trichotomy x y with hlt | rfl | hgt
  · rw [axisTo, axisTo, if_neg hlt.ne, if_pos hlt, if_neg hlt.ne', if_neg hlt.asymm]
    split <;> rfl
  · rw [axisTo, if_pos rfl]
    rfl
  · rw [axisTo, axisTo, if_neg hgt.ne', if_neg hgt.asymm, if_neg hgt.ne, if_pos hgt]
    split <;> rfl

section Nodes

variable (h : d.Preorder)
include h

/-- On the axes that share out the tree, places are told by numbers alone. -/
theorem mem_nodesOn_opposite_iff_of_place {axis : Axis}
    (haxis : axis ∈ [Axis.self, .ancestor, .descendant, .preceding, .following])
    (hx : x < d.size) (hy : y < d.size) :
    y ∈ nodesOn d axis x ↔ x ∈ nodesOn d axis.opposite y := by
  have hopposite : axis.opposite ∈ [Axis.self, .ancestor, .descendant, .preceding, .following] := by
    revert haxis
    cases axis <;> decide
  have hback : axisTo d y x = axis.opposite ↔ axisTo d x y = axis := by
    rw [axisTo_swap d x y]
    exact ⟨fun heq => by simpa using congrArg Axis.opposite heq, congrArg Axis.opposite⟩
  rw [mem_nodesOn_iff h hx haxis, mem_nodesOn_iff h hy hopposite, hback]
  exact and_congr_left' (iff_of_true hy hx)

theorem mem_child_iff : y ∈ nodesOn d .child x ↔ x ∈ nodesOn d .parent y := by
  rw [nodesOn, nodesOn, h.mem_children, Option.mem_toList]

theorem mem_followingSibling_iff :
    y ∈ nodesOn d .followingSibling x ↔
      ∃ p, d.parent? x = some p ∧ d.parent? y = some p ∧ x < y := by
  rw [nodesOn]
  cases hx : d.parent? x with
  | none => simp
  | some p =>
      simp [mem_tail_dropWhile_iff (h.pairwise_children p) (h.mem_children.mpr hx), h.mem_children]

theorem mem_precedingSibling_iff :
    x ∈ nodesOn d .precedingSibling y ↔
      ∃ p, d.parent? x = some p ∧ d.parent? y = some p ∧ x < y := by
  rw [nodesOn]
  cases hy : d.parent? y with
  | none => simp
  | some p =>
      simp [mem_takeWhile_iff (h.pairwise_children p) (h.mem_children.mpr hy), h.mem_children]

theorem mem_nodesOn_opposite_iff (axis : Axis) (hx : x < d.size) (hy : y < d.size) :
    y ∈ nodesOn d axis x ↔ x ∈ nodesOn d axis.opposite y := by
  have hplace (axis : Axis)
      (haxis : axis ∈ [Axis.self, .ancestor, .descendant, .preceding, .following]) :
      y ∈ nodesOn d axis x ↔ x ∈ nodesOn d axis.opposite y :=
    mem_nodesOn_opposite_iff_of_place h haxis hx hy
  cases axis with
  | child => exact mem_child_iff h
  | parent => exact (mem_child_iff h).symm
  | self | ancestor | descendant | preceding | following => exact hplace _ (by decide)
  | descendantOrSelf =>
      have hdescendant : y ∈ d.descendants x ↔ x ∈ d.ancestors y :=
        hplace .descendant (by decide)
      rw [Axis.opposite, nodesOn, nodesOn, List.mem_cons, List.mem_cons, hdescendant, eq_comm]
  | ancestorOrSelf =>
      have hancestor : y ∈ d.ancestors x ↔ x ∈ d.descendants y :=
        hplace .ancestor (by decide)
      rw [Axis.opposite, nodesOn, nodesOn, List.mem_cons, List.mem_cons, hancestor, eq_comm]
  | attributes => exact iff_of_false List.not_mem_nil List.not_mem_nil
  | followingSibling => exact (mem_followingSibling_iff h).trans (mem_precedingSibling_iff h).symm
  | precedingSibling => exact (mem_precedingSibling_iff h).trans (mem_followingSibling_iff h).symm

end Nodes

/-- A node finds on an axis the nodes of the tree that `nodesOn` lists. -/
theorem node_mem_axisMembers_iff {axis : Axis} :
    .node y ∈ axisMembers d axis (.node x) ↔ y ∈ nodesOn d axis x := by
  by_cases hattributes : axis = .attributes
  · subst hattributes
    simp [axisMembers, nodesOn]
  · rw [axisMembers_node hattributes, List.mem_map]
    simp

/-- In a document of a builder, one node lies on an axis of another one exactly if this one lies on
the opposite axis of the first: descendants and ancestors, children and parents, what follows and
what precedes, and siblings of either side are found from both ends. -/
theorem mem_axis_iff_mem_opposite (steps : List BuildStep) (axis : Axis) {x y : Nat}
    (hx : x < (Builder.run steps).document.size) (hy : y < (Builder.run steps).document.size) :
    .node y ∈ axisMembers (Builder.run steps).document axis (.node x) ↔
      .node x ∈ axisMembers (Builder.run steps).document axis.opposite (.node y) := by
  rw [node_mem_axisMembers_iff, node_mem_axisMembers_iff]
  exact mem_nodesOn_opposite_iff (Builder.wellFormed_run steps).preorder axis hx hy

/-- A list of three items, the one in the middle with a text. -/
def threeItems : List BuildStep :=
  [.openElement "ul" [], .openElement "li" [], .closeCurrent, .openElement "li" [], .text "a",
    .closeCurrent, .openElement "li" []]

/-- The last item follows the first one and is a later sibling of it, and the text in the middle is
below the list; so the ways back are known. -/
theorem mem_axis_iff_mem_opposite_items :
    2 < (Builder.run threeItems).document.size ∧ 5 < (Builder.run threeItems).document.size ∧
      .node 5 ∈ axisMembers (Builder.run threeItems).document .following (.node 2) ∧
      .node 2 ∈ axisMembers (Builder.run threeItems).document .preceding (.node 5) ∧
      .node 5 ∈ axisMembers (Builder.run threeItems).document .followingSibling (.node 2) ∧
      .node 2 ∈ axisMembers (Builder.run threeItems).document .precedingSibling (.node 5) ∧
      .node 4 ∈ axisMembers (Builder.run threeItems).document .descendant (.node 1) ∧
      .node 1 ∈ axisMembers (Builder.run threeItems).document .ancestor (.node 4) := by
  have hfollowing : .node 5 ∈ axisMembers (Builder.run threeItems).document .following (.node 2) := by
    decide +kernel
  have hsibling :
      .node 5 ∈ axisMembers (Builder.run threeItems).document .followingSibling (.node 2) := by
    decide +kernel
  have hbelow : .node 4 ∈ axisMembers (Builder.run threeItems).document .descendant (.node 1) := by
    decide +kernel
  have hback (axis : Axis) (x y : Nat) (hx : x < (Builder.run threeItems).document.size)
      (hy : y < (Builder.run threeItems).document.size) :=
    mem_axis_iff_mem_opposite threeItems axis hx hy
  exact ⟨by decide, by decide, hfollowing,
    (hback .following 2 5 (by decide) (by decide)).mp hfollowing, hsibling,
    (hback .followingSibling 2 5 (by decide) (by decide)).mp hsibling, hbelow,
    (hback .descendant 1 4 (by decide) (by decide)).mp hbelow⟩

end Harvest.XPath
