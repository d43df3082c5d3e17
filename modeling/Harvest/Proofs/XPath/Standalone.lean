import Harvest.Proofs.Markup.Standalone
import Harvest.Proofs.XPath.Simulation
import Mathlib

/-!
Queries that only look down give the same answer on a node and on a copy of it.

Such a query never leaves what is below the node it starts from, and what is below a node is found
again in the copy under other numbers. So the copy simulates the original, along the axes that lead
down.
-/

namespace Harvest.XPath

open Harvest.Markup

def Axis.isDownward : Axis → Bool
  | .child | .descendant | .descendantOrSelf | .self | .attributes => true
  | _ => false

def Expr.isDownward (e : Expr) : Bool := e.keepsTo Axis.isDownward false

/-- The member of the copy of `n` that a member below `n` has become. -/
def Member.shift (n : Nat) : Member → Member
  | .node id => .node (id - n + 1)
  | .attr owner index => .attr (owner - n + 1) index

def Value.shift (n : Nat) : Value → Value
  | .nodes members => .nodes (members.map (Member.shift n))
  | v => v

/-- A member below `n` and what has become of it in the copy of `n`. -/
inductive Shifted (d : Document) (n : Nat) : Member → Member → Prop
  | node {id : Nat} : d.Within n id → Shifted d n (.node id) (.node (id + 1 - n))
  | attr {owner : Nat} (index : Nat) : d.Within n owner →
      Shifted d n (.attr owner index) (.attr (owner + 1 - n) index)

variable {d : Document} {n : Nat}

theorem Shifted.eq_shift {x y : Member} (h : Shifted d n x y) : y = x.shift n := by
  cases h with
  | node hid =>
      have := hid.le
      simp only [Member.shift, Member.node.injEq]
      omega
  | attr index howner =>
      have := howner.le
      simp only [Member.shift, Member.attr.injEq, and_true]
      omega

theorem eq_map_shift {xs ys : List Member} (h : List.Forall₂ (Shifted d n) xs ys) :
    ys = xs.map (Member.shift n) := by
  induction h with
  | nil => rfl
  | cons hx _ ih => rw [List.map_cons, hx.eq_shift, ih]

theorem ValueRel.eq_shift {v w : Value} (h : ValueRel (Shifted d n) v w) : w = v.shift n := by
  cases h with
  | nodes h => rw [eq_map_shift h]; rfl
  | text content => rfl
  | number x => rfl
  | truth b => rfl

theorem Shifted.notAfter_eq {x x' y y' : Member} (hx : Shifted d n x x')
    (hy : Shifted d n y y') : x.notAfter y = x'.notAfter y' := by
  rw [Bool.eq_iff_iff, Member.notAfter_iff, Member.notAfter_iff]
  cases hx with
  | node hx | attr _ hx =>
      have := hx.le
      cases hy with
      | node hy | attr _ hy =>
          have := hy.le
          simp only [Member.orderKey]
          omega

section Reading

variable (h : d.WellFormed) (hn : n ≠ 0) (hlt : n < d.size)
include h hn hlt

theorem attributes_subtree {id : Nat} (hid : d.Within n id) :
    (d.subtree n).attributes (id + 1 - n) = d.attributes id := by
  rw [Document.attributes, Document.attributes, Document.kind_subtree h hn hlt hid]

theorem Shifted.stringValue_eq {x y : Member} (hxy : Shifted d n x y) :
    y.stringValue (d.subtree n) = x.stringValue d := by
  cases hxy with
  | node hid => exact Document.stringValue_subtree h hn hlt hid
  | attr index howner =>
      rw [Member.stringValue, Member.stringValue, attributes_subtree h hn hlt howner]

theorem Shifted.name_eq {x y : Member} (hxy : Shifted d n x y) :
    y.name (d.subtree n) = x.name d := by
  cases hxy with
  | node hid =>
      rw [Member.name, Member.name, Document.name?, Document.name?,
        Document.kind_subtree h hn hlt hid]
  | attr index howner => rw [Member.name, Member.name, attributes_subtree h hn hlt howner]

theorem Shifted.passes_eq {x y : Member} (hxy : Shifted d n x y) (axis : Axis)
    (test : NodeTest) : passes (d.subtree n) axis test y = passes d axis test x := by
  cases hxy with
  | node hid => simp only [passes, Document.kind_subtree h hn hlt hid]
  | attr index howner => rw [passes, passes, attributes_subtree h hn hlt howner]

omit h hn hlt in
theorem forall₂_shifted_nodes {ids : List Nat} (hids : ∀ id ∈ ids, d.Within n id) :
    List.Forall₂ (Shifted d n) (ids.map .node) ((ids.map (· + 1 - n)).map .node) := by
  rw [List.map_map, List.forall₂_map_left_iff, List.forall₂_map_right_iff, List.forall₂_same]
  exact fun id hid => .node (hids id hid)

theorem Shifted.nodesOn {id : Nat} (hid : d.Within n id) {axis : Axis}
    (haxis : axis.isDownward = true) :
    List.Forall₂ (Shifted d n) ((nodesOn d axis id).map .node)
      ((nodesOn (d.subtree n) axis (id + 1 - n)).map .node) := by
  have hbelow (j : Nat) (hj : j ∈ d.descendants id) : d.Within n j :=
    hid.trans (h.preorder.within_of_mem_descendants hj)
  cases axis with
  | child =>
      rw [XPath.nodesOn, XPath.nodesOn, Document.children_subtree h hn hlt hid]
      exact forall₂_shifted_nodes fun c hc => .under (h.preorder.mem_children.mp hc) hid
  | descendant =>
      rw [XPath.nodesOn, XPath.nodesOn, Document.descendants_subtree h hn hlt hid]
      exact forall₂_shifted_nodes hbelow
  | descendantOrSelf =>
      rw [XPath.nodesOn, XPath.nodesOn, Document.descendants_subtree h hn hlt hid]
      exact .cons (.node hid) (forall₂_shifted_nodes hbelow)
  | self => exact .cons (.node hid) .nil
  | attributes => exact .nil
  | parent | ancestor | ancestorOrSelf | followingSibling | precedingSibling | following
  | preceding => cases haxis

theorem Shifted.axisMembers {x y : Member} (hxy : Shifted d n x y) {axis : Axis}
    (haxis : axis.isDownward = true) :
    List.Forall₂ (Shifted d n) (axisMembers d axis x) (axisMembers (d.subtree n) axis y) := by
  cases hxy with
  | node hid =>
      by_cases hattributes : axis = .attributes
      · subst hattributes
        simp only [XPath.axisMembers, attributes_subtree h hn hlt hid]
        rw [List.forall₂_map_left_iff, List.forall₂_map_right_iff, List.forall₂_same]
        exact fun index _ => .attr index hid
      · have hnodes (d : Document) (id : Nat) :
            XPath.axisMembers d axis (.node id) = (XPath.nodesOn d axis id).map .node := by
          cases axis <;> first | rfl | exact absurd rfl hattributes
        rw [hnodes, hnodes]
        exact Shifted.nodesOn h hn hlt hid haxis
  | attr index howner =>
      cases axis with
      | self => exact .cons (.attr index howner) .nil
      | child | descendant | descendantOrSelf | attributes => exact .nil
      | parent | ancestor | ancestorOrSelf | followingSibling | precedingSibling | following
      | preceding => cases haxis

/-- A copy of a node simulates the node where queries look down. -/
theorem simulation_subtree :
    Simulation (.trusting d) (.trusting (d.subtree n)) Axis.isDownward false Eq
      (Shifted d n) where
  order _ _ _ _ hx hy := hx.notAfter_eq hy
  candidates axis test m m' haxis hm := by
    refine .ok (List.rel_filter ?_ (hm.axisMembers h hn hlt haxis))
    intro x y hxy
    show passes d axis test x = true ↔ passes (d.subtree n) axis test y = true
    rw [hxy.passes_eq h hn hlt]
  stringValue m m' hm := .ok (hm.stringValue_eq h hn hlt).symm
  name m m' hm := .ok (hm.name_eq h hn hlt).symm
  problem _ := rfl
  root h := absurd h Bool.false_ne_true

end Reading

/-- A downward query on a standalone copy of a node fails as it does on the node itself, or returns
the same value, where the members of a node-set are those of the original one by one under their
new numbers. -/
theorem evaluate_standalone (steps : List BuildStep) (n : Nat) (x : Compiled) (hn : n ≠ 0)
    (hlt : n < (Builder.run steps).document.size) (hx : x.expr.isDownward = true) :
    x.evaluate (NodeRef.mk (Builder.run steps).document n).standalone =
      (x.evaluate ⟨(Builder.run steps).document, n⟩).map (Value.shift n) := by
  have h := Builder.wellFormed_run steps
  have hsimulation := simulation_subtree h hn hlt
  have hstart : Shifted (Builder.run steps).document n (.node n) (.node 1) := by
    have hone : n + 1 - n = 1 := by omega
    have hshifted : Shifted (Builder.run steps).document n (.node n) (.node (n + 1 - n)) :=
      .node .here
    rwa [hone] at hshifted
  have hagree := hsimulation.eval x.expr hx
    (f := ⟨.node n, 1, 1⟩) (g := ⟨.node 1, 1, 1⟩) ⟨hstart, rfl, rfl⟩
  rw [Document.standalone_eq h hn hlt]
  unfold Compiled.evaluate eval
  generalize (Access.trusting (Builder.run steps).document).eval x.expr _ = o,
    (Access.trusting ((Builder.run steps).document.subtree n)).eval x.expr _ = o' at hagree
  cases hagree with
  | ok hv => rw [hv.eq_shift]; rfl
  | error hp => rw [hp]; rfl

/-- An attribute and an element found with a nested predicate, asked of the copy of a list item. -/
theorem evaluate_standalone_item :
    (Compiled.mk ".//b[text()]|@id"
      (.union
        (.path false [.here, .anyDepth,
          .mk .child (.name "b") [.path false [.mk .child .text []]]])
        (.path false [.mk .attributes (.name "id") []]))).evaluate
      (NodeRef.mk
        (Builder.run [.openElement "ul" [], .text "x", .openElement "LI" [("id", "1")], .text "a",
          .openElement "b" [], .text "c", .closeElement "li"]).document 3).standalone =
      .ok (.nodes [.attr 1 0, .node 3]) := by
  rw [evaluate_standalone _ 3 _ (by decide) (by decide) (by rfl)]
  cbv

end Harvest.XPath
