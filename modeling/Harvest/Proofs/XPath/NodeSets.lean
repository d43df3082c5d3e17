import Harvest.Proofs.XPath.Checked
import Harvest.Proofs.XPath.Simulation
import Mathlib

/-!
The node-sets that evaluations return.

A node-set is in strict document order because it comes from `documentOrder` or is a single member,
and because predicates only leave members out. Its members exist, and no look at a document goes
astray on the way, because the checking access simulates the trusting one on members that exist.
-/

namespace Harvest.XPath

open Harvest.Markup

section Order

variable {ε : Type}

theorem sublist_of_selectMembers {test : Focus → Except ε Value} {ms kept : List Member}
    (h : selectMembers test ms = .ok kept) : kept.Sublist ms := by
  unfold selectMembers at h
  generalize ms.length = size, 1 = position at h
  induction ms generalizing position kept with
  | nil =>
      cases h
      exact List.Sublist.refl []
  | cons m ms ih =>
      obtain ⟨v, _, h⟩ := bind_eq_ok.mp h
      obtain ⟨rest, hrest, h⟩ := bind_eq_ok.mp h
      have hsublist := ih _ hrest
      cases h
      split
      · exact hsublist.cons_cons m
      · exact hsublist.cons m

theorem pairwise_of_visitAll {visit : Member → Except ε (List Member)} {ms found : List Member}
    (h : visitAll visit ms = .ok found) : found.Pairwise Member.Before := by
  obtain ⟨lists, _, h⟩ := bind_eq_ok.mp h
  cases h
  exact pairwise_documentOrder lists.flatten

namespace Access

variable {a : Access ε}

theorem sublist_of_narrow {predicates : List Expr} {ms kept : List Member}
    (h : a.narrow predicates ms = .ok kept) : kept.Sublist ms := by
  induction predicates generalizing ms with
  | nil =>
      cases h
      exact List.Sublist.refl _
  | cons p ps ih =>
      rw [narrow] at h
      obtain ⟨selected, hselected, h⟩ := bind_eq_ok.mp h
      exact (ih h).trans (sublist_of_selectMembers hselected)

theorem pairwise_of_walk {steps : List Step} {ms found : List Member}
    (hms : ms.Pairwise Member.Before) (h : a.walk steps ms = .ok found) :
    found.Pairwise Member.Before := by
  induction steps generalizing ms with
  | nil =>
      cases h
      exact hms
  | cons step steps ih =>
      obtain ⟨axis, test, predicates⟩ := step
      rw [walk] at h
      obtain ⟨visited, hvisited, h⟩ := bind_eq_ok.mp h
      exact ih (pairwise_of_visitAll hvisited) h

/-- What a union returns is put together from the node-sets that its operands return. -/
theorem eval_union_eq_ok {left right : Expr} {focus : Focus} {v : Value} :
    a.eval (.union left right) focus = .ok v ↔
      ∃ ms ns, a.eval left focus = .ok (.nodes ms) ∧ a.eval right focus = .ok (.nodes ns) ∧
        v = .nodes (documentOrder (ms ++ ns)) := by
  constructor
  · intro h
    rw [eval] at h
    obtain ⟨l, hl, h⟩ := bind_eq_ok.mp h
    obtain ⟨r, hr, h⟩ := bind_eq_ok.mp h
    split at h
    · cases h
      exact ⟨_, _, hl, hr, rfl⟩
    · cases h
  · rintro ⟨ms, ns, hl, hr, rfl⟩
    rw [eval, hl, hr]
    rfl

/-- Node-sets are returned in strict document order, whatever a document answers. -/
theorem pairwise_of_eval {e : Expr} {focus : Focus} {ms : List Member}
    (h : a.eval e focus = .ok (.nodes ms)) : ms.Pairwise Member.Before := by
  cases e with
  | literal content =>
      rw [eval] at h
      cases h
  | number x =>
      rw [eval] at h
      cases h
  | negate operand =>
      rw [eval] at h
      obtain ⟨v, _, h⟩ := bind_eq_ok.mp h
      obtain ⟨x, _, h⟩ := bind_eq_ok.mp h
      cases h
  | binary op left right =>
      rw [eval] at h
      exact absurd h applyBinary_ne_nodes
  | union left right =>
      obtain ⟨ls, rs, _, _, heq⟩ := eval_union_eq_ok.mp h
      cases heq
      exact pairwise_documentOrder _
  | function name args =>
      rw [eval] at h
      exact absurd h call_ne_nodes
  | path absolute steps =>
      rw [eval] at h
      obtain ⟨found, hfound, h⟩ := bind_eq_ok.mp h
      cases h
      -- A path without steps returns the one member that it starts from.
      exact pairwise_of_walk (List.pairwise_singleton _ _) hfound
  | filter primary predicates steps =>
      rw [eval] at h
      obtain ⟨v, _, h⟩ := bind_eq_ok.mp h
      split at h
      · obtain ⟨kept, hkept, h⟩ := bind_eq_ok.mp h
        obtain ⟨found, hfound, h⟩ := bind_eq_ok.mp h
        cases h
        -- Without steps the result is what the predicates leave of an ordered list.
        have hsublist := sublist_of_narrow hkept
        exact pairwise_of_walk ((pairwise_documentOrder _).sublist hsublist) hfound
      · cases h

end Access

end Order

def SameMember (d : Document) (x y : Member) : Prop := x = y ∧ HasMember d x

/-- Checks find nothing amiss on members that exist, and only such members are found. -/
theorem simulation_checking {d : Document} (hd : d.Preorder) :
    Simulation (.trusting d) (.checking d) (fun _ => true) true (fun p q => q = .problem p)
      (SameMember d) where
  order := by
    rintro x _ y _ ⟨rfl, _⟩ ⟨rfl, _⟩
    rfl
  candidates := by
    rintro axis test m _ _ ⟨rfl, hm⟩
    show Agree _ _ (.ok (XPath.candidates d axis test m)) (Checked.candidates d axis test m)
    rw [Checked.candidates_eq hd axis test hm]
    refine .ok (List.forall₂_same.mpr fun x hx => ⟨rfl, ?_⟩)
    exact Checked.hasMember_of_mem_axisMembers hd hm (List.mem_filter.mp hx).1
  stringValue := by
    rintro m _ ⟨rfl, hm⟩
    show Agree _ _ (.ok (m.stringValue d)) (Checked.stringValue d m)
    rw [Checked.stringValue_eq hm]
    exact .ok rfl
  name := by
    rintro m _ ⟨rfl, hm⟩
    show Agree _ _ (.ok (m.name d)) (Checked.name d m)
    rw [Checked.name_eq hm]
    exact .ok rfl
  problem _ := rfl
  root _ := ⟨rfl, d.size_pos⟩

theorem eq_of_forall₂_sameMember {d : Document} {xs ys : List Member}
    (h : List.Forall₂ (SameMember d) xs ys) : xs = ys ∧ ∀ x ∈ xs, HasMember d x := by
  induction h with
  | nil => exact ⟨rfl, fun x hx => absurd hx List.not_mem_nil⟩
  | cons hx _ ih => exact ⟨by rw [hx.1, ih.1], List.forall_mem_cons.mpr ⟨hx.2, ih.2⟩⟩

theorem ValueRel.eq_of_sameMember {d : Document} {v w : Value}
    (h : ValueRel (SameMember d) v w) : v = w := by
  cases h with
  | nodes h => rw [(eq_of_forall₂_sameMember h).1]
  | text content => rfl
  | number x => rfl
  | truth b => rfl

/-- In a context that exists in a builder's document, an evaluation looks nowhere outside of the
document and of its lists: checked, it fails with the same problem or returns the same value. A
node-set is in strict document order and all its members exist; a union returns the members of its
two operands. -/
theorem eval_safe_and_ordered (steps : List BuildStep) (e : Expr) (focus : Focus)
    (hfocus : HasMember (Builder.run steps).document focus.member) :
    (Access.checking (Builder.run steps).document).eval e focus ≠ .error .outOfRange ∧
      (Access.checking (Builder.run steps).document).eval e focus =
        (eval (Builder.run steps).document e focus).mapError .problem ∧
      (∀ ms, eval (Builder.run steps).document e focus = .ok (.nodes ms) →
        ms.Pairwise Member.Before ∧ ∀ m ∈ ms, HasMember (Builder.run steps).document m) ∧
      (∀ left right v, e = .union left right →
        eval (Builder.run steps).document e focus = .ok v →
        ∃ ls rs ms, eval (Builder.run steps).document left focus = .ok (.nodes ls) ∧
          eval (Builder.run steps).document right focus = .ok (.nodes rs) ∧
          v = .nodes ms ∧ ∀ m, m ∈ ms ↔ m ∈ ls ∨ m ∈ rs) := by
  have hd := (Builder.wellFormed_run steps).preorder
  generalize (Builder.run steps).document = d at hfocus hd
  have hagree := (simulation_checking hd).eval e e.keepsTo_all (f := focus) (g := focus)
    ⟨⟨rfl, hfocus⟩, rfl, rfl⟩
  have hchecked := hagree.eq_mapError fun _ _ h => h.eq_of_sameMember
  refine ⟨?_, hchecked, ?_, ?_⟩
  · rw [hchecked]
    cases (Access.trusting d).eval e focus with
    | ok v => simp [Except.mapError]
    | error p => simp [Except.mapError]
  · intro ms h
    refine ⟨Access.pairwise_of_eval h, ?_⟩
    have h : (Access.trusting d).eval e focus = .ok (.nodes ms) := h
    rw [h] at hagree
    generalize (Access.checking d).eval e focus = checked at hagree
    cases hagree with
    | ok hv =>
        cases hv with
        | nodes hms => exact (eq_of_forall₂_sameMember hms).2
  · rintro left right v rfl h
    obtain ⟨ls, rs, hl, hr, rfl⟩ := Access.eval_union_eq_ok.mp h
    refine ⟨ls, rs, _, hl, hr, rfl, fun m => ?_⟩
    rw [mem_documentOrder, List.mem_append]

/-- Axes in both directions, an attribute and the parent come out in document order. -/
theorem eval_safe_and_ordered_siblings :
    (Access.checking (Builder.run [.openElement "ul" [], .openElement "li" [], .closeCurrent,
      .openElement "li" [("id", "1")], .text "a", .closeCurrent, .openElement "li" []]).document).eval
        (.union
          (.union (.path false [.mk .followingSibling .any []])
            (.path false [.mk .precedingSibling .any []]))
          (.union (.path false [.mk .attributes .any []]) (.path false [.up])))
        ⟨.node 3, 1, 1⟩ =
      .ok (.nodes [.node 1, .node 2, .attr 3 0, .node 5]) := by
  rw [(eval_safe_and_ordered _ _ ⟨.node 3, 1, 1⟩ (by decide)).2.1]
  cbv

end Harvest.XPath
