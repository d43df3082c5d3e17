import Harvest.Proofs.Markup.Copy

/-!
What a subtree on its own keeps of the document it was copied from.

The number `k` of a node becomes `k + 1 - n` when `n` is the node that is copied. Kinds and children
are kept, and with them everything that is read off a node downward: what is below it, its string
value and its markup.
-/

namespace Harvest.Markup.Document

open Builder (Copied)

variable {d : Document} (h : d.WellFormed) {n : Nat} (hn : n ≠ 0) (hlt : n < d.size)
include h hn hlt

theorem copied_subtree :
    ∃ b, d.subtree n = b.document ∧ Copied d n b (d.subtreeEnd n + 1) := by
  have hpos : 0 < n := Nat.pos_of_ne_zero hn
  obtain ⟨p, hp, _⟩ := h.preorder.parent n hpos hlt
  have hparent : (d.parent? n).map (· + 1 - n) = some Builder.empty.current := by
    have hpn := lt_of_parent? hp
    have hzero : p + 1 - n = 0 := by omega
    rw [hp, Option.map_some, hzero]
    rfl
  have hnone : (Builder.empty.document.children Builder.empty.current).getLast? = none := rfl
  refine ⟨Builder.empty.copy d n, by rw [subtree, if_neg hn], ?_⟩
  refine (Builder.copiesNode h hpos n (Nat.le_refl n) hlt _ (Builder.copied_empty d n) hparent
    fun _ l hl => ?_).1
  rw [hnone] at hl
  cases hl

theorem size_subtree : (d.subtree n).size = d.subtreeEnd n + 1 - n + 1 := by
  obtain ⟨b, hb, hcopied⟩ := copied_subtree h hn hlt
  have hsize := hcopied.size
  have hle := h.preorder.le_subtreeEnd_self n
  rw [hb]
  omega

theorem kind_subtree {k : Nat} (hk : d.Within n k) :
    (d.subtree n).kind (k + 1 - n) = d.kind k := by
  obtain ⟨b, hb, hcopied⟩ := copied_subtree h hn hlt
  have hsize := hcopied.size
  obtain ⟨hle, hend⟩ := h.preorder.within_iff.mp hk
  have hshift : k + 1 - n + n - 1 = k := by omega
  rw [hb, (hcopied.node (k + 1 - n) (by omega) (by omega)).1, hshift]

theorem children_subtree {k : Nat} (hk : d.Within n k) :
    (d.subtree n).children (k + 1 - n) = (d.children k).map (· + 1 - n) := by
  obtain ⟨b, hb, hcopied⟩ := copied_subtree h hn hlt
  rw [hb, hcopied.children h.preorder (Nat.pos_of_ne_zero hn) (.inl hk.le)]
  congr 1
  refine List.filter_eq_self.mpr fun c hc => decide_eq_true ?_
  have hwithin : d.Within n c := .under (h.preorder.mem_children.mp hc) hk
  have := h.preorder.le_subtreeEnd hwithin
  omega

theorem wellFormed_subtree : (d.subtree n).WellFormed := by
  obtain ⟨b, hb, hcopied⟩ := copied_subtree h hn hlt
  rw [hb]
  exact hcopied.sound.document

/-- What stands above the copied node becomes the root. -/
theorem parent?_subtree {k : Nat} (hk : d.Within n k) :
    (d.subtree n).parent? (k + 1 - n) = (d.parent? k).map (· + 1 - n) := by
  obtain ⟨b, hb, hcopied⟩ := copied_subtree h hn hlt
  have hsize := hcopied.size
  obtain ⟨hle, hend⟩ := h.preorder.within_iff.mp hk
  have hshift : k + 1 - n + n - 1 = k := by omega
  rw [hb, (hcopied.node (k + 1 - n) (by omega) (by omega)).2, hshift]

/-- Every node of a copy but the root has been copied. -/
theorem exists_within_of_lt_size_subtree {j : Nat} (hpos : 0 < j) (hj : j < (d.subtree n).size) :
    ∃ k, d.Within n k ∧ j = k + 1 - n := by
  rw [size_subtree h hn hlt] at hj
  have hle := h.preorder.le_subtreeEnd_self n
  exact ⟨j + n - 1, h.preorder.within_iff.mpr ⟨by omega, by omega⟩, by omega⟩

/-- The copied node is the only child of the new root. -/
theorem children_subtree_zero : (d.subtree n).children 0 = [1] := by
  have hpreorder := (wellFormed_subtree h hn hlt).preorder
  obtain ⟨p, hp, _⟩ := h.preorder.parent n (Nat.pos_of_ne_zero hn) hlt
  have hpn := lt_of_parent? hp
  refine List.Pairwise.eq_of_mem_iff (hpreorder.pairwise_children 0)
    (List.pairwise_singleton _ 1) fun j => ?_
  rw [hpreorder.mem_children, List.mem_singleton]
  constructor
  · intro hj
    obtain ⟨k, hk, rfl⟩ :=
      exists_within_of_lt_size_subtree h hn hlt (lt_of_parent? hj) (lt_size_of_parent? hj)
    rw [parent?_subtree h hn hlt hk, Option.map_eq_some_iff] at hj
    obtain ⟨q, hq, hzero⟩ := hj
    -- The parent is not among the nodes that have been copied, so `k` is the copied node itself.
    have hkn : k = n := by
      by_contra hne
      obtain ⟨q', hq', hwithin⟩ := hk.parent hne
      rw [hq] at hq'
      cases hq'
      have := hwithin.le
      omega
    omega
  · rintro rfl
    have hone : n + 1 - n = 1 := by omega
    have hparent := parent?_subtree h hn hlt .here
    rw [hone, hp, Option.map_some] at hparent
    rw [hparent]
    congr 1
    omega

theorem standalone_eq : (NodeRef.mk d n).standalone = ⟨d.subtree n, 1⟩ := by
  simp only [NodeRef.standalone, NodeRef.copied?, if_neg hn, Option.getD_some,
    children_subtree_zero h hn hlt, List.headD_cons]

theorem descendants_subtree {k : Nat} (hk : d.Within n k) :
    (d.subtree n).descendants (k + 1 - n) = (d.descendants k).map (· + 1 - n) := by
  induction k using descendants.induct d with
  | case1 k ih =>
      rw [descendants_eq, descendants_eq, children_subtree h hn hlt hk, List.map_flatMap,
        List.flatMap_map]
      refine List.flatMap_congr fun c hc => ?_
      have hwithin : d.Within n c := .under (h.preorder.mem_children.mp hc) hk
      rw [List.map_cons, ih c hc hwithin]

/-- The character data below a node does not depend on where the node stands. -/
theorem textBelow_subtree {k : Nat} (hk : d.Within n k) :
    (d.subtree n).textBelow (k + 1 - n) = d.textBelow k := by
  induction k using textBelow.induct d with
  | case1 k ih =>
      rw [textBelow_eq, textBelow_eq, children_subtree h hn hlt hk, List.map_map]
      congr 1
      refine List.map_congr_left fun c hc => ?_
      have hwithin : d.Within n c := .under (h.preorder.mem_children.mp hc) hk
      rw [Function.comp_apply, dataOf, dataOf, kind_subtree h hn hlt hwithin]
      split
      · rfl
      · exact ih c hc hwithin
      · rfl

theorem stringValue_subtree {k : Nat} (hk : d.Within n k) :
    (d.subtree n).stringValue (k + 1 - n) = d.stringValue k := by
  rw [stringValue, stringValue, kind_subtree h hn hlt hk, textBelow_subtree h hn hlt hk]

/-- Nor does the markup of a node. -/
theorem toMarkup_subtree {k : Nat} (hk : d.Within n k) :
    (d.subtree n).toMarkup (k + 1 - n) = d.toMarkup k := by
  induction k using descendants.induct d with
  | case1 k ih =>
      have hinner : ((d.subtree n).children (k + 1 - n)).map (d.subtree n).toMarkup =
          (d.children k).map d.toMarkup := by
        rw [children_subtree h hn hlt hk, List.map_map]
        refine List.map_congr_left fun c hc => ?_
        exact ih c hc (.under (h.preorder.mem_children.mp hc) hk)
      rw [toMarkup, toMarkup, List.map_subtype (g := (d.subtree n).toMarkup) fun _ _ => rfl,
        List.map_subtype (g := d.toMarkup) fun _ _ => rfl, List.unattach_attach,
        List.unattach_attach, hinner, kind_subtree h hn hlt hk, children_subtree h hn hlt hk,
        List.isEmpty_map]

end Harvest.Markup.Document
