import Harvest.Proofs.Markup.Building
import Harvest.Proofs.XPath.Agreement
import Harvest.XPath.Eval

/-!
Reading a document with every number checked.

The checking access looks at a node only after it has made sure that the document has a node of that
number, and cuts a list only at a place inside of it; where that is not so, and where a text would
be cut within a character, the evaluation aborts. On the members that a builder's document has it
answers like the trusting access. Its steps are written out one by one, so that no look at a node
goes unchecked.
-/

namespace Harvest.XPath

open Harvest.Markup

inductive Abort
  /-- A number that no node has, a place outside of a list, an argument that is not there or a cut
  within a character. -/
  | outOfRange
  | problem (p : EvalProblem)
  deriving DecidableEq, Repr

def HasMember (d : Document) : Member → Prop
  | .node id => id < d.size
  | .attr owner index => owner < d.size ∧ index < (d.attributes owner).length

instance (d : Document) (m : Member) : Decidable (HasMember d m) :=
  match m with
  | .node id => inferInstanceAs (Decidable (id < d.size))
  | .attr owner index =>
    inferInstanceAs (Decidable (owner < d.size ∧ index < (d.attributes owner).length))

namespace Checked

variable (d : Document)

/-- What is read of a node after a look at its number. -/
def read {α : Type} (reader : Nat → α) (id : Nat) : Except Abort α :=
  if id < d.size then .ok (reader id) else .error .outOfRange

def dropTo (ids : List Nat) (place : Nat) : Except Abort (List Nat) :=
  if place ≤ ids.length then .ok (ids.drop place) else .error .outOfRange

def takeTo (ids : List Nat) (place : Nat) : Except Abort (List Nat) :=
  if place ≤ ids.length then .ok (ids.take place) else .error .outOfRange

def descendants (id : Nat) : Except Abort (List Nat) :=
  if id < d.size then do
    let below ← (d.children id).attach.mapM fun c => do return c.1 :: (← descendants c.1)
    return below.flatten
  else .error .outOfRange
  termination_by d.size - id
  decreasing_by
    have := Document.child_lt c.2; omega

def ancestors (id : Nat) : Except Abort (List Nat) :=
  if id < d.size then
    match _h : d.parent? id with
    | some p => do return p :: (← ancestors p)
    | none => return []
  else .error .outOfRange
  termination_by id
  decreasing_by exact Document.lt_of_parent? _h

def subtreeEnd (id : Nat) : Except Abort Nat :=
  if id < d.size then
    match _h : (d.children id).getLast? with
    | some c => subtreeEnd c
    | none => return id
  else .error .outOfRange
  termination_by d.size - id
  decreasing_by
    have := Document.child_lt (List.mem_of_getLast? _h); omega

def textBelow (id : Nat) : Except Abort String :=
  if id < d.size then do
    let parts ← (d.children id).attach.mapM fun c => do
      match ← read d d.kind c.1 with
      | .text content => return content
      | .element _ _ => textBelow c.1
      | _ => return ""
    return String.join parts
  else .error .outOfRange
  termination_by d.size - id
  decreasing_by
    have := Document.child_lt c.2; omega

def stringValue (m : Member) : Except Abort String :=
  match m with
  | .node id => do
    match ← read d d.kind id with
    | .text content => return content
    | .comment content => return content
    | _ => textBelow d id
  | .attr owner index => do
    return ((← read d d.attributes owner)[index]?.map (·.2)).getD ""

def name (m : Member) : Except Abort String :=
  match m with
  | .node id => do return (← read d d.name? id).getD ""
  | .attr owner index => do
    return ((← read d d.attributes owner)[index]?.map (·.1)).getD ""

/-- The nodes of an axis. The place of a node among its siblings is the first one if it is not
among them. -/
def nodesOn (axis : Axis) (id : Nat) : Except Abort (List Nat) :=
  match axis with
  | .child => read d d.children id
  | .descendant => descendants d id
  | .descendantOrSelf => do return id :: (← descendants d id)
  | .parent => do return (← read d d.parent? id).toList
  | .ancestor => ancestors d id
  | .ancestorOrSelf => do return id :: (← ancestors d id)
  | .self => return [id]
  | .attributes => return []
  | .followingSibling => do
    match ← read d d.parent? id with
    | none => return []
    | some p =>
      let siblings ← read d d.children p
      dropTo siblings ((siblings.idxOf? id).getD 0 + 1)
  | .precedingSibling => do
    match ← read d d.parent? id with
    | none => return []
    | some p =>
      let siblings ← read d d.children p
      return (← takeTo siblings ((siblings.idxOf? id).getD 0)).reverse
  | .following => do
    let first := (← subtreeEnd d id) + 1
    return List.range' first (d.size - first)
  | .preceding => do
    let above ← ancestors d id
    return (List.range' 1 (id - 1)).reverse.filter fun n => !above.contains n

def axisMembers (axis : Axis) (m : Member) : Except Abort (List Member) :=
  match m with
  | .node id =>
    match axis with
    | .attributes => do
      return (List.range (← read d d.attributes id).length).map (.attr id)
    | axis => do return (← nodesOn d axis id).map .node
  | .attr owner _ =>
    match axis with
    | .parent => return [.node owner]
    | .self => return [m]
    | .ancestor => do return (← nodesOn d .ancestorOrSelf owner).map .node
    | .ancestorOrSelf => do return m :: (← nodesOn d .ancestorOrSelf owner).map .node
    | .following => do
      let below ← nodesOn d .descendant owner
      return (below ++ (← nodesOn d .following owner)).map .node
    | .preceding => do return (← nodesOn d .preceding owner).map .node
    | _ => return []

/-- Whether a member passes a test; a test looks at one node, which is the member or has it. -/
def passes (axis : Axis) (test : NodeTest) (m : Member) : Except Abort Bool :=
  read d (fun _ => XPath.passes d axis test m) m.orderKey.1

def candidates (axis : Axis) (test : NodeTest) (m : Member) : Except Abort (List Member) := do
  (← axisMembers d axis m).filterM (passes d axis test)

end Checked

/-- On every axis but that of the attributes a node leads to nodes. -/
theorem axisMembers_node {d : Document} {axis : Axis} {id : Nat} (h : axis ≠ .attributes) :
    axisMembers d axis (.node id) = (nodesOn d axis id).map .node := by
  cases axis <;> first | rfl | exact absurd rfl h

/-- The access that checks every number before it is used. -/
def Access.checking (d : Document) : Access Abort where
  candidates := Checked.candidates d
  stringValue := Checked.stringValue d
  name := Checked.name d
  missing := .error .outOfRange
  problem := .problem

/-! On nodes that exist a checked reader returns what the plain one does. -/

theorem mapM_eq_ok {ε α β : Type} {f : α → Except ε β} {g : α → β} {xs : List α}
    (h : ∀ x ∈ xs, f x = .ok (g x)) : xs.mapM f = .ok (xs.map g) := by
  induction xs with
  | nil => rfl
  | cons x xs ih =>
      rw [List.mapM_cons, h x List.mem_cons_self,
        ih fun y hy => h y (List.mem_cons_of_mem _ hy)]
      rfl

theorem filterM_eq_ok {ε α : Type} {p : α → Except ε Bool} {q : α → Bool} {xs : List α}
    (h : ∀ x ∈ xs, p x = .ok (q x)) : xs.filterM p = .ok (xs.filter q) := by
  have hloop (kept : List α) :
      xs.filterAuxM p kept = .ok ((xs.filter q).reverse ++ kept) := by
    induction xs generalizing kept with
    | nil => rfl
    | cons x xs ih =>
        rw [List.filterAuxM, h x List.mem_cons_self, List.filter_cons]
        show xs.filterAuxM p (cond (q x) (x :: kept) kept) = _
        rw [ih fun y hy => h y (List.mem_cons_of_mem _ hy)]
        cases q x <;> simp
  rw [List.filterM, hloop, List.append_nil]
  show Except.ok (xs.filter q).reverse.reverse = _
  rw [List.reverse_reverse]

namespace Checked

variable {d : Document}

theorem read_eq {α : Type} {reader : Nat → α} {id : Nat} (h : id < d.size) :
    read d reader id = .ok (reader id) := if_pos h

theorem descendants_eq {id : Nat} (h : id < d.size) :
    descendants d id = .ok (d.descendants id) := by
  induction id using Document.descendants.induct d with
  | case1 id ih =>
      have hbelow : ((d.children id).attach.mapM fun c => do
          return c.1 :: (← descendants d c.1)) =
          .ok ((d.children id).attach.map fun c => c.1 :: d.descendants c.1) := by
        refine mapM_eq_ok fun c _ => ?_
        rw [ih c.1 c.2 (Document.child_lt c.2).2]
        rfl
      rw [List.attach_map_val (f := fun c => c :: d.descendants c)] at hbelow
      rw [descendants, if_pos h, hbelow, Document.descendants_eq, List.flatMap_def]
      rfl

theorem ancestors_eq {id : Nat} (h : id < d.size) :
    ancestors d id = .ok (d.ancestors id) := by
  induction id using Document.ancestors.induct d with
  | case1 id p hp ih =>
      have hlt := Document.lt_of_parent? hp
      rw [ancestors, if_pos h, Document.ancestors_of_parent? _ hp]
      split
      · next q hq =>
        rw [hp] at hq
        cases hq
        rw [ih (Nat.lt_trans hlt h)]
        rfl
      · next hnone =>
        rw [hp] at hnone
        cases hnone
  | case2 id hnone =>
      rw [ancestors, if_pos h, Document.ancestors_of_parent?_eq_none _ hnone]
      split
      · next q hq =>
        rw [hnone] at hq
        cases hq
      · rfl

theorem subtreeEnd_eq {id : Nat} (h : id < d.size) :
    subtreeEnd d id = .ok (d.subtreeEnd id) := by
  induction id using Document.subtreeEnd.induct d with
  | case1 id c hc ih =>
      rw [subtreeEnd, if_pos h, d.subtreeEnd_of_getLast? hc]
      split
      · next q hq =>
        rw [hc] at hq
        cases hq
        exact ih (Document.child_lt (List.mem_of_getLast? hc)).2
      · next hnone =>
        rw [hc] at hnone
        cases hnone
  | case2 id hnone =>
      rw [subtreeEnd, if_pos h,
        d.subtreeEnd_of_children_eq_nil (List.getLast?_eq_none_iff.mp hnone)]
      split
      · next q hq =>
        rw [hnone] at hq
        cases hq
      · rfl

theorem textBelow_eq {id : Nat} (h : id < d.size) :
    textBelow d id = .ok (d.textBelow id) := by
  induction id using Document.textBelow.induct d with
  | case1 id ih =>
      have hparts : ((d.children id).attach.mapM fun c => do
          match ← read d d.kind c.1 with
          | .text content => return content
          | .element _ _ => textBelow d c.1
          | _ => return "") = .ok ((d.children id).attach.map fun c => d.dataOf c.1) := by
        refine mapM_eq_ok fun c _ => ?_
        have hlt := (Document.child_lt c.2).2
        simp only [read_eq hlt, Document.dataOf, bind, Except.bind]
        cases d.kind c.1 with
        | element _ _ => exact ih c.1 c.2 hlt
        | root | text _ | comment _ => rfl
      rw [List.attach_map_val] at hparts
      rw [textBelow, if_pos h, hparts, Document.textBelow_eq]
      rfl

theorem stringValue_eq {m : Member} (h : HasMember d m) :
    stringValue d m = .ok (m.stringValue d) := by
  cases m with
  | node id =>
      have h : id < d.size := h
      simp only [stringValue, read_eq h, textBelow_eq h, Member.stringValue,
        Document.stringValue, bind, Except.bind]
      cases d.kind id <;> rfl
  | attr owner index =>
      rw [stringValue, read_eq h.1]
      rfl

theorem name_eq {m : Member} (h : HasMember d m) : name d m = .ok (m.name d) := by
  cases m with
  | node id =>
      have h : id < d.size := h
      rw [name, read_eq h]
      rfl
  | attr owner index =>
      rw [name, read_eq h.1]
      rfl

/-- A node stands among the children of its parent, so lists of siblings are cut inside. -/
theorem siblings_eq (hd : d.Preorder) {id p : Nat} (hp : d.parent? id = some p) :
    dropTo (d.children p) (((d.children p).idxOf? id).getD 0 + 1) =
        .ok ((d.children p).dropWhile (· != id)).tail ∧
      takeTo (d.children p) (((d.children p).idxOf? id).getD 0) =
        .ok ((d.children p).takeWhile (· != id)) := by
  -- The only cut that could fail is the one behind a place that stands for no sibling.
  obtain ⟨before, after, hchildren, hnot⟩ :=
    List.eq_append_cons_of_mem (hd.mem_children.mpr hp)
  have hbefore : ∀ x ∈ before, (x != id) = true := fun x hx =>
    bne_iff_ne.mpr fun heq => hnot (heq ▸ hx)
  have hplace : (before ++ id :: after).idxOf? id = some before.length := by
    have hnone : before.findIdx? (· == id) = none :=
      List.findIdx?_eq_none_iff.mpr fun x hx => by simpa using hbefore x hx
    rw [List.idxOf?, List.findIdx?_append, hnone, List.findIdx?_cons, beq_self_eq_true]
    simp
  have hlength : before.length + 1 ≤ (before ++ id :: after).length := by
    rw [List.length_append, List.length_cons]
    omega
  rw [hchildren, hplace, Option.getD_some, List.dropWhile_append_of_pos hbefore,
    List.takeWhile_append_of_pos hbefore]
  constructor
  · rw [dropTo, if_pos hlength, List.dropWhile_cons_of_neg (by simp), List.tail_cons]
    simp
  · rw [takeTo, if_pos (Nat.le_of_succ_le hlength), List.takeWhile_cons_of_neg (by simp)]
    simp

variable (hd : d.Preorder)
include hd

theorem nodesOn_eq (axis : Axis) {id : Nat} (h : id < d.size) :
    nodesOn d axis id = .ok (XPath.nodesOn d axis id) := by
  cases axis with
  | child => exact read_eq h
  | descendant => exact descendants_eq h
  | descendantOrSelf =>
      rw [nodesOn, descendants_eq h]
      rfl
  | parent =>
      rw [nodesOn, read_eq h]
      rfl
  | ancestor => exact ancestors_eq h
  | ancestorOrSelf =>
      rw [nodesOn, ancestors_eq h]
      rfl
  | self | attributes => rfl
  | followingSibling =>
      simp only [nodesOn, XPath.nodesOn, read_eq h, bind, Except.bind]
      cases hp : d.parent? id with
      | none => rfl
      | some p =>
          simp only [read_eq (Nat.lt_trans (Document.lt_of_parent? hp) h)]
          exact (siblings_eq hd hp).1
  | precedingSibling =>
      simp only [nodesOn, XPath.nodesOn, read_eq h, bind, Except.bind]
      cases hp : d.parent? id with
      | none => rfl
      | some p =>
          simp only [read_eq (Nat.lt_trans (Document.lt_of_parent? hp) h), (siblings_eq hd hp).2]
          rfl
  | following =>
      rw [nodesOn, subtreeEnd_eq h]
      rfl
  | preceding =>
      rw [nodesOn, ancestors_eq h]
      rfl

theorem nodesOn_lt {axis : Axis} {id j : Nat} (h : id < d.size)
    (hj : j ∈ XPath.nodesOn d axis id) : j < d.size := by
  have hbelow (hj : j ∈ d.descendants id) : j < d.size :=
    (hd.within_of_mem_descendants hj).lt_size h
  have habove (hj : j ∈ d.ancestors id) : j < d.size :=
    Nat.lt_of_le_of_lt (Document.within_of_mem_ancestors hj).le h
  have hsibling {p : Nat} (hj : j ∈ d.children p) : j < d.size := (Document.child_lt hj).2
  cases axis with
  | child => exact hsibling hj
  | descendant => exact hbelow hj
  | descendantOrSelf =>
      rcases List.mem_cons.mp hj with rfl | hj
      · exact h
      · exact hbelow hj
  | parent =>
      have hj : d.parent? id = some j := Option.mem_toList.mp hj
      exact Nat.lt_trans (Document.lt_of_parent? hj) h
  | ancestor => exact habove hj
  | ancestorOrSelf =>
      rcases List.mem_cons.mp hj with rfl | hj
      · exact h
      · exact habove hj
  | self =>
      obtain rfl := List.mem_singleton.mp hj
      exact h
  | attributes => cases hj
  | followingSibling =>
      rw [XPath.nodesOn] at hj
      split at hj
      · exact hsibling ((List.dropWhile_sublist _).mem (List.mem_of_mem_tail hj))
      · cases hj
  | precedingSibling =>
      rw [XPath.nodesOn] at hj
      split at hj
      · exact hsibling ((List.takeWhile_sublist _).mem (List.mem_reverse.mp hj))
      · cases hj
  | following =>
      rw [XPath.nodesOn, List.mem_range'_1] at hj
      omega
  | preceding =>
      rw [XPath.nodesOn, List.mem_filter, List.mem_reverse, List.mem_range'_1] at hj
      omega

theorem axisMembers_eq (axis : Axis) {m : Member} (h : HasMember d m) :
    axisMembers d axis m = .ok (XPath.axisMembers d axis m) := by
  cases m with
  | node id =>
      have h : id < d.size := h
      by_cases hattributes : axis = .attributes
      · subst hattributes
        rw [axisMembers, read_eq h]
        rfl
      · have hnodes : axisMembers d axis (.node id) =
            do return (← nodesOn d axis id).map .node := by
          cases axis <;> first | rfl | exact absurd rfl hattributes
        rw [hnodes, nodesOn_eq hd axis h, axisMembers_node hattributes]
        rfl
  | attr owner index =>
      have howner := h.1
      cases axis with
      | ancestor | ancestorOrSelf | preceding =>
          rw [axisMembers, nodesOn_eq hd _ howner]
          rfl
      | following =>
          rw [axisMembers, nodesOn_eq hd _ howner, nodesOn_eq hd _ howner]
          rfl
      | parent | self | child | descendant | descendantOrSelf | attributes | followingSibling
      | precedingSibling => rfl

theorem hasMember_of_mem_axisMembers {axis : Axis} {m x : Member} (h : HasMember d m)
    (hx : x ∈ XPath.axisMembers d axis m) : HasMember d x := by
  have hnode {axis : Axis} {id : Nat} (h : id < d.size)
      (hx : x ∈ (XPath.nodesOn d axis id).map Member.node) : HasMember d x := by
    obtain ⟨j, hj, rfl⟩ := List.mem_map.mp hx
    exact nodesOn_lt hd h hj
  cases m with
  | node id =>
      by_cases hattributes : axis = .attributes
      · subst hattributes
        obtain ⟨index, hindex, rfl⟩ := List.mem_map.mp hx
        exact ⟨h, List.mem_range.mp hindex⟩
      · rw [axisMembers_node hattributes] at hx
        exact hnode h hx
  | attr owner index =>
      cases axis with
      | parent =>
          obtain rfl := List.mem_singleton.mp hx
          exact h.1
      | self =>
          obtain rfl := List.mem_singleton.mp hx
          exact h
      | ancestor | preceding => exact hnode h.1 hx
      | ancestorOrSelf =>
          rcases List.mem_cons.mp hx with rfl | hx
          · exact h
          · exact hnode h.1 hx
      | following =>
          rw [XPath.axisMembers, List.map_append, List.mem_append] at hx
          rcases hx with hx | hx
          · exact hnode h.1 hx
          · exact hnode h.1 hx
      | child | descendant | descendantOrSelf | attributes | followingSibling
      | precedingSibling => cases hx

theorem candidates_eq (axis : Axis) (test : NodeTest) {m : Member} (h : HasMember d m) :
    candidates d axis test m = .ok (XPath.candidates d axis test m) := by
  have hpasses : ∀ x ∈ XPath.axisMembers d axis m,
      passes d axis test x = .ok (XPath.passes d axis test x) := by
    intro x hx
    have hexists := hasMember_of_mem_axisMembers hd h hx
    cases x with
    | node id => exact read_eq hexists
    | attr owner index => exact read_eq hexists.1
  rw [candidates, axisMembers_eq hd axis h, XPath.candidates]
  exact filterM_eq_ok hpasses

end Checked

end Harvest.XPath
