import Harvest.Proofs.Rule.Nodes

/-!
Which elements are rules.

An element taken by itself passes if its tag is that of an operator and it has the attributes that
the operator requires. To load a tree of elements is to look at them one after the other in document
order: the tree is a rule if all of them pass, and of those that do not the first one is reported,
whatever stands behind it. The rule is the one that the tree writes out.
-/

namespace Harvest

section FirstFailure

variable {ε α β : Type} {f : α → Except ε β} {xs : List α} {p : ε}

theorem exists_mapM_eq_ok_iff :
    (∃ ys, xs.mapM f = .ok ys) ↔ ∀ x ∈ xs, ∃ y, f x = .ok y := by
  induction xs with
  | nil => exact ⟨fun _ => List.forall_mem_nil _, fun _ => ⟨[], rfl⟩⟩
  | cons x xs ih =>
      rw [List.forall_mem_cons, ← ih, List.mapM_cons]
      constructor
      · rintro ⟨_, h⟩
        obtain ⟨y, hy, h⟩ := bind_eq_ok.mp h
        obtain ⟨ys, hys, -⟩ := bind_eq_ok.mp h
        exact ⟨⟨y, hy⟩, ys, hys⟩
      · rintro ⟨⟨y, hy⟩, ys, hys⟩
        rw [hy, hys]
        exact ⟨y :: ys, rfl⟩

/-- Of what fails along a list, the first failure counts. -/
theorem mapM_eq_error_iff :
    xs.mapM f = .error p ↔ ∃ before x after, xs = before ++ x :: after ∧
      (∀ y ∈ before, ∃ z, f y = .ok z) ∧ f x = .error p := by
  induction xs with
  | nil => simp [pure, Except.pure]
  | cons x xs ih =>
      rw [List.mapM_cons]
      constructor
      · intro h
        cases hx : f x with
        | error q =>
            rw [hx] at h
            cases h
            exact ⟨[], x, xs, rfl, List.forall_mem_nil _, hx⟩
        | ok y =>
            have hrest : xs.mapM f = .error p := by
              rw [hx] at h
              cases hxs : xs.mapM f with
              | error q => rw [hxs] at h; exact h
              | ok ys => rw [hxs] at h; cases h
            obtain ⟨before, z, after, rfl, hbefore, hz⟩ := ih.mp hrest
            exact ⟨x :: before, z, after, rfl, List.forall_mem_cons.mpr ⟨⟨y, hx⟩, hbefore⟩, hz⟩
      · rintro ⟨before, z, after, hxs, hbefore, hz⟩
        cases before with
        | nil =>
            obtain ⟨rfl, rfl⟩ := List.cons.inj hxs
            rw [hz]
            rfl
        | cons y before =>
            obtain ⟨rfl, rfl⟩ := List.cons.inj hxs
            obtain ⟨⟨w, hw⟩, hbefore⟩ := List.forall_mem_cons.mp hbefore
            rw [hw, ih.mpr ⟨before, z, after, rfl, hbefore, hz⟩]
            rfl

end FirstFailure

mutual

/-- The element and all elements in it: an element before those in it, and these from left to
right. -/
def Xml.Element.inOrder (e : Xml.Element) : List Xml.Element :=
  match e with
  | ⟨tag, attributes, children⟩ => ⟨tag, attributes, children⟩ :: Xml.Element.allInOrder children

def Xml.Element.allInOrder (es : List Xml.Element) : List Xml.Element :=
  match es with
  | [] => []
  | e :: es => e.inOrder ++ Xml.Element.allInOrder es

end

namespace Rule

open Xml (Element)

mutual

def toElement (r : Rule) : Element :=
  match r with
  | .mk op attributes children => ⟨op.tag, attributes, toElements children⟩

def toElements (rs : List Rule) : List Element :=
  match rs with
  | [] => []
  | r :: rs => r.toElement :: toElements rs

end

/-- The element, taken by itself, is a rule with the operator. -/
structure IsRuleOf (op : Operator) (e : Element) : Prop where
  tag : op.tag = e.tag
  attributes : ∀ name ∈ op.required, ∃ value, e.attribute? name = some value

/-- What is wrong with an element taken by itself. A tag that no operator has is all that is said of
an element; else the first of the required attributes that it lacks is named. -/
inductive Offence (e : Element) : LoadError → Prop
  | unknown (h : ∀ op : Operator, op.tag ≠ e.tag) : Offence e (.unknownOperator e.tag)
  | missing {op : Operator} {before after : List String} {name : String} (htag : op.tag = e.tag)
    (hrequired : op.required = before ++ name :: after)
    (hbefore : ∀ earlier ∈ before, ∃ value, e.attribute? earlier = some value)
    (hname : e.attribute? name = none) : Offence e (.missingAttribute e.tag name)

theorem ofTag?_eq_some_iff {tag : String} {op : Operator} :
    Operator.ofTag? tag = some op ↔ op.tag = tag := by
  constructor
  · intro h
    unfold Operator.ofTag? at h
    split at h
    all_goals cases h
    all_goals rfl
  · rintro rfl
    cases op <;> rfl

theorem tag_injective {op op' : Operator} (h : op.tag = op'.tag) : op = op' := by
  have hop := ofTag?_eq_some_iff.mpr h
  rw [ofTag?_eq_some_iff.mpr rfl] at hop
  exact (Option.some.inj hop).symm

theorem contains_iff {e : Element} {name : String} :
    e.attributes.contains name = true ↔ ∃ value, e.attribute? name = some value :=
  Option.isSome_iff_exists

theorem contains_eq_false_iff {e : Element} {name : String} :
    e.attributes.contains name = false ↔ e.attribute? name = none :=
  Option.isSome_eq_false_iff.trans Option.isNone_iff_eq_none

/-- The operator of an element taken by itself, which is the first thing that loading looks at. -/
def operatorOf (e : Element) : Except LoadError Operator :=
  match Operator.ofTag? e.tag with
  | none => .error (.unknownOperator e.tag)
  | some op =>
    match op.required.find? fun name => !e.attributes.contains name with
    | some name => .error (.missingAttribute op.tag name)
    | none => .ok op

theorem operatorOf_eq_ok_iff {e : Element} {op : Operator} :
    operatorOf e = .ok op ↔ IsRuleOf op e := by
  have hpasses (op : Operator) : (op.required.find? fun name => !e.attributes.contains name) = none ↔
      ∀ name ∈ op.required, ∃ value, e.attribute? name = some value := by
    simp [List.find?_eq_none, contains_iff]
  unfold operatorOf
  constructor
  · intro h
    split at h
    · cases h
    · next op' htag =>
      split at h
      · cases h
      · next hnone =>
        cases h
        exact ⟨ofTag?_eq_some_iff.mp htag, (hpasses op).mp hnone⟩
  · rintro ⟨htag, hattributes⟩
    rw [ofTag?_eq_some_iff.mpr htag]
    simp only [(hpasses op).mpr hattributes]

theorem operatorOf_eq_error_iff {e : Element} {p : LoadError} :
    operatorOf e = .error p ↔ Offence e p := by
  unfold operatorOf
  constructor
  · intro h
    split at h
    · next hnone =>
      cases h
      refine .unknown fun op htag => ?_
      rw [ofTag?_eq_some_iff.mpr htag] at hnone
      cases hnone
    · next op htag =>
      have htag := ofTag?_eq_some_iff.mp htag
      split at h
      · next name hfind =>
        obtain ⟨hname, before, after, hrequired, hbefore⟩ := List.find?_eq_some_iff_append.mp hfind
        cases h
        rw [htag]
        refine .missing htag hrequired (fun earlier h => contains_iff.mp ?_) ?_
        · simpa using hbefore earlier h
        · exact contains_eq_false_iff.mp (by simpa using hname)
      · cases h
  · intro h
    cases h with
    | unknown h =>
        cases htag : Operator.ofTag? e.tag with
        | none => rfl
        | some op => exact absurd (ofTag?_eq_some_iff.mp htag) (h op)
    | @missing op before after name htag hrequired hbefore hname =>
        have hfind : (op.required.find? fun name => !e.attributes.contains name) = some name := by
          refine List.find?_eq_some_iff_append.mpr ⟨?_, before, after, hrequired, fun earlier h => ?_⟩
          · simpa using contains_eq_false_iff.mpr hname
          · simpa using contains_iff.mpr (hbefore earlier h)
        rw [ofTag?_eq_some_iff.mpr htag]
        simp only [hfind, htag]

theorem ofElement_eq (e : Element) : ofElement e = do
    let op ← operatorOf e
    let children ← ofElements e.children
    return .mk op e.attributes children := by
  obtain ⟨tag, attributes, children⟩ := e
  rw [ofElement, operatorOf]
  cases Operator.ofTag? tag with
  | none => rfl
  | some op =>
      dsimp only
      cases op.required.find? fun name => !attributes.contains name <;> rfl

mutual

/-- To load a tree is to look at its elements in document order. -/
theorem map_op_ofElement (e : Element) :
    (fun r => r.nodes.map op) <$> ofElement e = e.inOrder.mapM operatorOf := by
  match e with
  | ⟨tag, attributes, children⟩ =>
      rw [Element.inOrder, List.mapM_cons, ← map_op_ofElements children, ofElement_eq]
      -- Either side fails with the element itself first, and with its children then.
      cases operatorOf ⟨tag, attributes, children⟩ with
      | error p => rfl
      | ok op =>
          cases ofElements children with
          | error p => rfl
          | ok rs => simp [nodes_eq, Rule.op, Rule.children, bind, Except.bind, pure, Except.pure,
              Functor.map, Except.map]

theorem map_op_ofElements (es : List Element) :
    (fun rs => (nodesOf rs).map op) <$> ofElements es =
      (Element.allInOrder es).mapM operatorOf := by
  match es with
  | [] => rfl
  | e :: es =>
      rw [Element.allInOrder, List.mapM_append, ← map_op_ofElement e, ← map_op_ofElements es,
        ofElements]
      cases ofElement e with
      | error p => rfl
      | ok r =>
          cases ofElements es with
          | error p => rfl
          | ok rs => simp [nodesOf, bind, Except.bind, pure, Except.pure, Functor.map, Except.map]

end

mutual

theorem toElement_of_ofElement {e : Element} {r : Rule} (h : ofElement e = .ok r) :
    r.toElement = e := by
  match e with
  | ⟨tag, attributes, children⟩ =>
      rw [ofElement_eq] at h
      obtain ⟨op, hop, h⟩ := bind_eq_ok.mp h
      obtain ⟨rs, hrs, h⟩ := bind_eq_ok.mp h
      cases h
      rw [toElement, toElements_of_ofElements hrs, (operatorOf_eq_ok_iff.mp hop).tag]

theorem toElements_of_ofElements {es : List Element} {rs : List Rule}
    (h : ofElements es = .ok rs) : toElements rs = es := by
  match es with
  | [] =>
      cases h
      rfl
  | e :: es =>
      obtain ⟨r, hr, h⟩ := bind_eq_ok.mp h
      obtain ⟨rs, hrs, h⟩ := bind_eq_ok.mp h
      cases h
      rw [toElements, toElement_of_ofElement hr, toElements_of_ofElements hrs]

end

mutual

theorem toElement_injective {r s : Rule} (h : r.toElement = s.toElement) : r = s := by
  match r, s with
  | .mk op attributes children, .mk op' attributes' children' =>
      rw [toElement, toElement] at h
      obtain ⟨htag, rfl, hchildren⟩ := Element.mk.inj h
      rw [tag_injective htag, toElements_injective hchildren]

theorem toElements_injective {rs ss : List Rule} (h : toElements rs = toElements ss) :
    rs = ss := by
  match rs, ss with
  | [], [] => rfl
  | [], _ :: _ => cases h
  | _ :: _, [] => cases h
  | r :: rs, s :: ss =>
      obtain ⟨hr, hrs⟩ := List.cons.inj h
      rw [toElement_injective hr, toElements_injective hrs]

end

theorem exists_map_eq_ok {ε α β : Type} {f : α → β} {x : Except ε α} :
    (∃ b, f <$> x = .ok b) ↔ ∃ a, x = .ok a := by
  cases x <;> simp [Functor.map, Except.map]

theorem map_eq_error {ε α β : Type} {f : α → β} {x : Except ε α} {p : ε} :
    f <$> x = .error p ↔ x = .error p := by
  cases x <;> simp [Functor.map, Except.map]

/-- A tree of elements is loaded exactly if each of its elements has the tag of an operator and the
attributes that the operator requires, and what is loaded is the rule that the tree writes out. Else
the first element in document order of which this does not hold is reported, for its tag before its
attributes and for the first of these that it lacks. -/
theorem ofElement_first_offence (e : Element) :
    (∀ r, ofElement e = .ok r ↔ r.toElement = e ∧ ∀ x ∈ e.inOrder, ∃ op, IsRuleOf op x) ∧
      ((∃ r, ofElement e = .ok r) ↔ ∀ x ∈ e.inOrder, ∃ op, IsRuleOf op x) ∧
      ∀ p, ofElement e = .error p ↔ ∃ before x after, e.inOrder = before ++ x :: after ∧
        (∀ y ∈ before, ∃ op, IsRuleOf op y) ∧ Offence x p := by
  have hloads : (∃ r, ofElement e = .ok r) ↔ ∀ x ∈ e.inOrder, ∃ op, IsRuleOf op x := by
    rw [← exists_map_eq_ok (f := fun r : Rule => r.nodes.map op), map_op_ofElement,
      exists_mapM_eq_ok_iff]
    simp only [operatorOf_eq_ok_iff]
  refine ⟨fun r => ⟨fun h => ⟨toElement_of_ofElement h, hloads.mp ⟨r, h⟩⟩, ?_⟩, hloads, ?_⟩
  · rintro ⟨hr, hpass⟩
    obtain ⟨s, hs⟩ := hloads.mpr hpass
    rwa [toElement_injective (hr.trans (toElement_of_ofElement hs).symm)]
  · intro p
    rw [← map_eq_error (f := fun r : Rule => r.nodes.map op), map_op_ofElement, mapM_eq_error_iff]
    simp only [operatorOf_eq_ok_iff, operatorOf_eq_error_iff]

end Rule

end Harvest
