import Harvest.Proofs.Markup.Standalone
import Mathlib

/-!
Copies are faithful.

The copy of a node is told number by number, and what is read off a node downward is the same at its
copy. As a document in preorder is known from the kinds and the parents of its nodes, a copy of what
stands alone already is the same document again, and so is a copy of a whole document.
-/

namespace Harvest.Markup

namespace Document

variable {d e : Document}

theorem getElem?_nodes {i : Nat} (hi : i < d.size) :
    d.nodes[i]? = some ⟨d.kind i, d.parent? i, d.children i⟩ := by
  rw [kind, parent?, children, Array.getElem?_eq_getElem hi]

/-- Children are told from parents, so these and the kinds make a document. -/
theorem Preorder.eq_of_nodes (hd : d.Preorder) (he : e.Preorder) (hsize : d.size = e.size)
    (hkind : ∀ i, i < e.size → d.kind i = e.kind i)
    (hparent : ∀ i, i < e.size → d.parent? i = e.parent? i) : d = e := by
  have hchildren (p : Nat) : d.children p = e.children p := by
    rw [hd.children, he.children, hsize]
    refine List.filter_congr fun i hi => ?_
    rw [hparent i (List.mem_range.mp hi)]
  refine Document.ext (Array.ext_getElem? fun i => ?_)
  rcases Nat.lt_or_ge i e.size with hlt | hge
  · rw [getElem?_nodes (hsize ▸ hlt), getElem?_nodes hlt, hkind i hlt, hparent i hlt, hchildren]
  · have hge' : d.size ≤ i := hsize ▸ hge
    rw [Array.getElem?_eq_none hge', Array.getElem?_eq_none hge]

/-- Of the root nothing need be known. -/
theorem WellFormed.eq_of_nodes (hd : d.WellFormed) (he : e.WellFormed) (hsize : d.size = e.size)
    (hnode : ∀ i, 0 < i → i < e.size → d.kind i = e.kind i ∧ d.parent? i = e.parent? i) : d = e := by
  refine hd.preorder.eq_of_nodes he.preorder hsize (fun i hi => ?_) fun i hi => ?_
  · rcases Nat.eq_zero_or_pos i with rfl | hpos
    · rw [(hd.root_iff 0 d.size_pos).mpr rfl, (he.root_iff 0 e.size_pos).mpr rfl]
    · exact (hnode i hpos hi).1
  · rcases Nat.eq_zero_or_pos i with rfl | hpos
    · rw [parent?_zero, parent?_zero]
    · exact (hnode i hpos hi).2

theorem Preorder.mem_cons_descendants (h : d.Preorder) {n k : Nat} :
    k ∈ n :: d.descendants n ↔ d.Within n k := by
  have hle := h.le_subtreeEnd_self n
  rw [h.within_iff, List.mem_cons, h.descendants_eq_range', List.mem_range'_1]
  omega

theorem Preorder.length_descendants (h : d.Preorder) (n : Nat) :
    (d.descendants n).length = d.subtreeEnd n - n := by
  rw [h.descendants_eq_range', List.length_range']

/-- Behind a root every number becomes itself. -/
theorem map_add_one_sub_one (p : Option Nat) : p.map (· + 1 - 1) = p := by
  cases p <;> rfl

/-- To copy the only node below the root is to copy the document. -/
theorem WellFormed.subtree_one (h : d.WellFormed) (hone : d.children 0 = [1]) :
    d.subtree 1 = d := by
  have hlt : 1 < d.size := (child_lt (hone ▸ List.mem_singleton_self 1)).2
  have hlast : d.subtreeEnd 1 = d.size - 1 := by
    have hgetLast : (d.children 0).getLast? = some 1 := by rw [hone, List.getLast?_singleton]
    rw [← h.preorder.subtreeEnd_zero, d.subtreeEnd_of_getLast? hgetLast]
  refine (wellFormed_subtree h Nat.one_ne_zero hlt).eq_of_nodes h ?_ fun i hpos hi => ?_
  · rw [size_subtree h Nat.one_ne_zero hlt, hlast]
    omega
  · have hwithin : d.Within 1 i := h.preorder.within_iff.mpr ⟨hpos, by omega⟩
    have hkind := kind_subtree h Nat.one_ne_zero hlt hwithin
    have hparent := parent?_subtree h Nat.one_ne_zero hlt hwithin
    rw [Nat.add_sub_cancel] at hkind hparent
    exact ⟨hkind, hparent.trans (map_add_one_sub_one _)⟩

/-- A copy of everything below the root has every node under its own number. -/
theorem WellFormed.subtree_zero (h : d.WellFormed) : d.subtree 0 = d := by
  have hcopies : ∀ c ∈ d.children 0, Builder.CopiesNode d 1 c := fun c hc =>
    Builder.copiesNode h Nat.one_pos c (child_lt hc).1 (child_lt hc).2
  obtain ⟨hcopied, -⟩ := Builder.Copied.foldl_copy h Nat.one_pos (.inr rfl) hcopies
    (List.nil_append _).symm (h.preorder.tiles_children 0) (Builder.copied_empty d 1) rfl
  have hsubtree : d.subtree 0 =
      ((d.children 0).foldl (fun b c => b.copy d c) Builder.empty).document := by
    rw [subtree, if_pos rfl]
  rw [hsubtree]
  generalize (d.children 0).foldl (fun b c => b.copy d c) Builder.empty = b at hcopied
  have hsize : b.document.size = d.size := by
    have hpos : 0 < d.size := d.size_pos
    have := hcopied.size
    rw [h.preorder.subtreeEnd_zero] at this
    omega
  refine hcopied.sound.document.eq_of_nodes h hsize fun i hpos hi => ?_
  obtain ⟨hkind, hparent⟩ := hcopied.node i hpos (hsize ▸ hi)
  rw [Nat.add_sub_cancel] at hkind hparent
  exact ⟨hkind, hparent.trans (map_add_one_sub_one _)⟩

/-- One document holds a copy of a node of another one and of all that is below it, the number `k`
having become `k - n + 1`, and nothing else besides its root. -/
structure IsCopy (d : Document) (n : Nat) (e : Document) : Prop where
  size : e.size = (n :: d.descendants n).length + 1
  covers : ∀ j, 0 < j → j < e.size → ∃ k ∈ n :: d.descendants n, j = k - n + 1
  root : e.kind 0 = .root
  top : e.children 0 = [1]
  top_parent : e.parent? 1 = some 0
  kind : ∀ k ∈ n :: d.descendants n, e.kind (k - n + 1) = d.kind k
  parent : ∀ k ∈ d.descendants n, ∃ p ∈ n :: d.descendants n,
    d.parent? k = some p ∧ e.parent? (k - n + 1) = some (p - n + 1)
  children : ∀ k ∈ n :: d.descendants n,
    e.children (k - n + 1) = (d.children k).map (· - n + 1)
  stringValue : ∀ k ∈ n :: d.descendants n, e.stringValue (k - n + 1) = d.stringValue k
  toMarkup : ∀ k ∈ n :: d.descendants n, e.toMarkup (k - n + 1) = d.toMarkup k

theorem isCopy_subtree (h : d.WellFormed) {n : Nat} (hn : n ≠ 0) (hlt : n < d.size) :
    IsCopy d n (d.subtree n) := by
  have hcopy := wellFormed_subtree h hn hlt
  have hshift {k : Nat} (hk : d.Within n k) : k - n + 1 = k + 1 - n := by
    have := hk.le
    omega
  have hmem {k : Nat} : k ∈ n :: d.descendants n ↔ d.Within n k := h.preorder.mem_cons_descendants
  exact {
    size := by
      have := h.preorder.le_subtreeEnd_self n
      rw [size_subtree h hn hlt, List.length_cons, h.preorder.length_descendants]
      omega
    covers := fun j hpos hj => by
      obtain ⟨k, hk, rfl⟩ := exists_within_of_lt_size_subtree h hn hlt hpos hj
      exact ⟨k, hmem.mpr hk, (hshift hk).symm⟩
    root := (hcopy.root_iff 0 (size_pos _)).mpr rfl
    top := children_subtree_zero h hn hlt
    top_parent := hcopy.preorder.mem_children.mp (by
      rw [children_subtree_zero h hn hlt]
      exact List.mem_singleton_self 1)
    kind := fun k hk => by
      have hk := hmem.mp hk
      rw [hshift hk, kind_subtree h hn hlt hk]
    parent := fun k hk => by
      have hbelow := hk
      rw [h.preorder.descendants_eq_range', List.mem_range'_1] at hbelow
      have hk := hmem.mp (List.mem_cons_of_mem n hk)
      obtain ⟨p, hp, hwithin⟩ := hk.parent (by omega)
      refine ⟨p, hmem.mpr hwithin, hp, ?_⟩
      rw [hshift hk, hshift hwithin, parent?_subtree h hn hlt hk, hp, Option.map_some]
    children := fun k hk => by
      have hk := hmem.mp hk
      rw [hshift hk, children_subtree h hn hlt hk]
      refine List.map_congr_left fun c hc => ?_
      rw [hshift (.under (h.preorder.mem_children.mp hc) hk)]
    stringValue := fun k hk => by
      have hk := hmem.mp hk
      rw [hshift hk, stringValue_subtree h hn hlt hk]
    toMarkup := fun k hk => by
      have hk := hmem.mp hk
      rw [hshift hk, toMarkup_subtree h hn hlt hk] }

theorem standalone_standalone (h : d.WellFormed) {n : Nat} (hn : n ≠ 0) (hlt : n < d.size) :
    (NodeRef.mk d n).standalone.standalone = (NodeRef.mk d n).standalone := by
  have hcopy := wellFormed_subtree h hn hlt
  have htop := children_subtree_zero h hn hlt
  have hone : 1 < (d.subtree n).size := (child_lt (htop ▸ List.mem_singleton_self 1)).2
  rw [standalone_eq h hn hlt, standalone_eq hcopy Nat.one_ne_zero hone, hcopy.subtree_one htop]

end Document

namespace Builder

/-- In a document of a builder a node is copied with all that is below it and nothing else, and a
copy of a copy that stands alone is the same again. A copy of everything is the document itself. -/
theorem subtree_faithful (steps : List BuildStep) :
    (∀ n, n ≠ 0 → n < (run steps).document.size →
      (run steps).document.IsCopy n ((run steps).document.subtree n) ∧
      (NodeRef.mk (run steps).document n).standalone = ⟨(run steps).document.subtree n, 1⟩ ∧
      (NodeRef.mk (run steps).document n).standalone.standalone =
        (NodeRef.mk (run steps).document n).standalone) ∧
    (run steps).document.subtree 0 = (run steps).document := by
  have h := wellFormed_run steps
  exact ⟨fun n hn hlt => ⟨Document.isCopy_subtree h hn hlt, Document.standalone_eq h hn hlt,
    Document.standalone_standalone h hn hlt⟩, h.subtree_zero⟩

/-- A list item with an attribute, a text and a comment is copied from the middle of its list. -/
theorem subtree_faithful_item :
    let d := (run [.openElement "ul" [], .text "x", .openElement "LI" [("ID", "1")], .text "a",
      .text "b", .openElement "b" [], .closeCurrent, .comment "c", .closeElement "li",
      .openElement "li" []]).document
    3 ≠ 0 ∧ 3 < d.size ∧ d.IsCopy 3 (d.subtree 3) ∧ (d.subtree 3).size = 5 ∧
      (d.subtree 3).toMarkup 1 = "<li id=\"1\">ab<b/><!--c--></li>" ∧
      (NodeRef.mk d 3).standalone.standalone = (NodeRef.mk d 3).standalone := by
  intro d
  have hlt : 3 < d.size := by decide
  obtain ⟨hcopy, -, hagain⟩ := (subtree_faithful _).1 3 (by decide) hlt
  exact ⟨by decide, hlt, hcopy, by cbv, by cbv, hagain⟩

end Builder

end Harvest.Markup
