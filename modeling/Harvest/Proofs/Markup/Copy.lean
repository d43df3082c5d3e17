import Harvest.Markup.Subtree
import Harvest.Proofs.Markup.Building

/-!
What a copy of a subtree is.

A copy is made by replaying the steps that would have built it, so its nodes arrive in the order of
their numbers in the original. `Copied d n b next` says that `b` has replayed the nodes of `d` from
`n` up to `next`, where the number `k` has become `k + 1 - n`; the parent of `n`, which is not among
them, becomes the root. Copying a node takes a builder from its number to the number behind all that
is below it.
-/

namespace Harvest.Markup

namespace Builder

open Document (lt_of_parent? lt_size_of_parent?)

theorem copy_text {b : Builder} {d : Document} {id : Nat} {content : String}
    (h : d.kind id = .text content) : b.copy d id = b.text content := by
  rw [copy]
  split <;> simp_all

theorem copy_comment {b : Builder} {d : Document} {id : Nat} {content : String}
    (h : d.kind id = .comment content) : b.copy d id = b.comment content := by
  rw [copy]
  split <;> simp_all

theorem copy_element {b : Builder} {d : Document} {id : Nat} {name : String}
    {attributes : List Attribute} (h : d.kind id = .element name attributes) :
    b.copy d id =
      ((d.children id).foldl (fun b c => b.copy d c) (b.openElement name attributes)).closeCurrent := by
  rw [copy]
  split
  · simp_all
  · next name' attributes' heq =>
    rw [h] at heq
    cases heq
    rw [List.foldl_attach]
  · simp_all
  · simp_all

/-- What one builder has, another has too: its nodes with their names, and the same elements are
open. -/
structure Continues (b b' : Builder) : Prop where
  opened : b'.opened = b.opened
  size : b.document.size ≤ b'.document.size
  name? : ∀ i, i < b.document.size → b'.document.name? i = b.document.name? i

theorem Continues.refl (b : Builder) : b.Continues b := ⟨rfl, Nat.le_refl _, fun _ _ => rfl⟩

theorem Continues.trans {b₁ b₂ b₃ : Builder} (h₁ : b₁.Continues b₂) (h₂ : b₂.Continues b₃) :
    b₁.Continues b₃ where
  opened := h₂.opened.trans h₁.opened
  size := Nat.le_trans h₁.size h₂.size
  name? i hi := (h₂.name? i (Nat.lt_of_lt_of_le hi h₁.size)).trans (h₁.name? i hi)

theorem Continues.foldl {α : Type} {f : Builder → α → Builder} {items : List α}
    (h : ∀ a ∈ items, ∀ b : Builder, b.Continues (f b a)) (b : Builder) :
    b.Continues (items.foldl f b) := by
  induction items generalizing b with
  | nil => exact .refl b
  | cons a items ih =>
      obtain ⟨ha, hitems⟩ := List.forall_mem_cons.mp h
      exact (ha b).trans (ih hitems (f b a))

theorem continues_append (b : Builder) (kind : NodeKind) : b.Continues (b.append kind) where
  opened := rfl
  size := by
    rw [document_append, Document.size_append]
    exact Nat.le_succ _
  name? i hi := by
    rw [document_append, Document.name?, b.document.kind_append_of_lt b.current_lt kind hi]
    rfl

theorem continues_text (b : Builder) (content : String) : b.Continues (b.text content) := by
  obtain hnone | happend | ⟨last, hdocument, hopened⟩ := b.text_cases content
  · rw [hnone]
    exact .refl b
  · rw [happend]
    exact b.continues_append _
  · refine ⟨hopened, ?_, fun i _ => ?_⟩
    · rw [hdocument, Document.size_extendText]
    · rw [hdocument, Document.name?_extendText]

/-- A copy is added to what is there, and ends where it began. -/
theorem continues_copy (b : Builder) (d : Document) (id : Nat) : b.Continues (b.copy d id) := by
  cases hkind : d.kind id with
  | root =>
      have hcopy : b.copy d id = b := by
        rw [copy]
        split <;> simp_all
      rw [hcopy]
      exact .refl b
  | text content =>
      rw [copy_text hkind]
      exact b.continues_text content
  | comment content =>
      rw [copy_comment hkind]
      exact b.continues_append _
  | element name attributes =>
      have hchildren : (b.openElement name attributes).Continues
          ((d.children id).foldl (fun b c => b.copy d c) (b.openElement name attributes)) :=
        .foldl (fun c hc b => continues_copy b d c) _
      have hopen := b.continues_append (NodeKind.element name attributes).lowered
      rw [copy_element hkind]
      refine ⟨?_, Nat.le_trans hopen.size hchildren.size, fun i hi => ?_⟩
      · rw [opened_closeCurrent, hchildren.opened, opened_openElement, List.tail_cons]
      · exact (hchildren.name? i (Nat.lt_of_lt_of_le hi hopen.size)).trans (hopen.name? i hi)
  termination_by d.size - id
  decreasing_by
    have := Document.child_lt hc; omega

theorem text_eq_append {b : Builder} {content : String} (hne : content ≠ "")
    (hlast : ∀ l, (b.document.children b.current).getLast? = some l →
      (b.document.kind l).isText = false) :
    b.text content = b.append (.text content) := by
  rw [Builder.text, if_neg hne]
  split
  · next l hl =>
    split
    · next content' hkind =>
      have := hlast l hl
      rw [hkind] at this
      cases this
    · rfl
  · rfl

/-- The nodes from `n` up to `next`, and no others, have been copied. -/
structure Copied (d : Document) (n : Nat) (b : Builder) (next : Nat) : Prop where
  sound : b.Sound
  size : b.document.size + n = next + 1
  node : ∀ j, 0 < j → j < b.document.size →
    b.document.kind j = d.kind (j + n - 1) ∧
      b.document.parent? j = (d.parent? (j + n - 1)).map (· + 1 - n)

variable {d : Document} {n : Nat} {b : Builder} {next : Nat}

/-- Before the first node nothing has been copied. -/
theorem copied_empty (d : Document) (n : Nat) : Copied d n empty n where
  sound := sound_empty
  size := Nat.add_comm 1 n
  node j hpos hj := by
    have hone : empty.document.size = 1 := rfl
    omega

/-- The children of a copied node are the copies of those of its children that have been copied. So
are those of the root where the copy begins right behind it. -/
theorem Copied.children (h : Copied d n b next) (hd : d.Preorder) (hn : 0 < n) {c : Nat}
    (hc : n ≤ c ∨ n = 1) :
    b.document.children (c + 1 - n) =
      ((d.children c).filter (· < next)).map (· + 1 - n) := by
  have hsize := h.size
  refine List.Pairwise.eq_of_mem_iff (h.sound.document.preorder.pairwise_children _) ?_ ?_
  · rw [List.pairwise_map]
    refine ((hd.pairwise_children c).filter _).imp_of_mem ?_
    intro x y hx hy hxy
    have := lt_of_parent? (hd.mem_children.mp (List.mem_filter.mp hx).1)
    omega
  · intro j
    rw [h.sound.document.preorder.mem_children, List.mem_map]
    constructor
    · intro hj
      -- The parent of `j` in the copy is not the root, so it stands for the parent in the original.
      have hpos := lt_of_parent? hj
      have hlt := lt_size_of_parent? hj
      rw [(h.node j (by omega) hlt).2, Option.map_eq_some_iff] at hj
      obtain ⟨q, hq, hqc⟩ := hj
      obtain rfl : q = c := by omega
      refine ⟨j + n - 1, List.mem_filter.mpr ⟨hd.mem_children.mpr hq, ?_⟩, by omega⟩
      exact decide_eq_true (by omega)
    · rintro ⟨x, hx, rfl⟩
      obtain ⟨hx, hnext⟩ := List.mem_filter.mp hx
      have hnext := of_decide_eq_true hnext
      have hparent := hd.mem_children.mp hx
      have hlt := lt_of_parent? hparent
      have hshift : x + 1 - n + n - 1 = x := by omega
      rw [(h.node (x + 1 - n) (by omega) (by omega)).2, hshift, hparent]
      rfl

/-- The next node has been copied when a builder has appended it below the copy of its parent. -/
theorem Copied.append (h : Copied d n b next) {b' : Builder}
    (hsound : b'.Sound) (hdocument : b'.document = (b.append (d.kind next)).document)
    (hparent : (d.parent? next).map (· + 1 - n) = some b.current) :
    Copied d n b' (next + 1) where
  sound := hsound
  size := by
    have hsize := h.size
    rw [hdocument, document_append, Document.size_append]
    omega
  node := by
    intro j hpos hj
    have hsize := h.size
    rw [hdocument, document_append] at hj ⊢
    rw [Document.size_append] at hj
    rw [Document.kind_append, Document.parent?_append]
    by_cases heq : j = b.document.size
    · have hshift : j + n - 1 = next := by omega
      rw [if_pos heq, if_pos heq, hshift, hparent]
      exact ⟨rfl, rfl⟩
    · rw [if_neg heq, if_neg heq]
      exact h.node j hpos (by omega)

/-- The last of the children copied so far is no text if a text comes next. -/
theorem Copied.separate (h : Copied d n b next) (hd : d.WellFormed) (hn : 0 < n) {c : Nat}
    (hc : n ≤ c ∨ n = 1) {pre rest : List Nat} (hchildren : d.children c = pre ++ next :: rest)
    (htext : (d.kind next).isText = true) :
    ∀ l, (b.document.children (c + 1 - n)).getLast? = some l →
      (b.document.kind l).isText = false := by
  intro l hl
  have hsize := h.size
  have hsorted := hd.preorder.pairwise_children c
  rw [hchildren] at hsorted
  obtain ⟨_, htail, hacross⟩ := List.pairwise_append.mp hsorted
  -- The children copied so far are those before `next`, so the last of them is its neighbour.
  have hpre : (d.children c).filter (· < next) = pre := by
    have hkept : pre.filter (· < next) = pre :=
      List.filter_eq_self.mpr fun x hx => decide_eq_true (hacross x hx next List.mem_cons_self)
    have hdropped : (next :: rest).filter (· < next) = [] := by
      refine List.filter_eq_nil_iff.mpr fun x hx => ?_
      rcases List.mem_cons.mp hx with rfl | hx
      · simp
      · have := (List.pairwise_cons.mp htail).1 x hx
        simp
        omega
    rw [hchildren, List.filter_append, hkept, hdropped, List.append_nil]
  rw [h.children hd.preorder hn hc, hpre, List.getLast?_map, Option.map_eq_some_iff] at hl
  obtain ⟨y, hy, rfl⟩ := hl
  have hymem : y ∈ d.children c := hchildren ▸ List.mem_append_left _ (List.mem_of_getLast? hy)
  have hlt := lt_of_parent? (hd.preorder.mem_children.mp hymem)
  have hynext := hacross y (List.mem_of_getLast? hy) next List.mem_cons_self
  have hshift : y + 1 - n + n - 1 = y := by omega
  rw [(h.node (y + 1 - n) (by omega) (by omega)).1, hshift]
  have hchain := hd.separate c
  rw [hchildren] at hchain
  have hpair := (List.isChain_append.mp hchain).2.2 y hy next rfl
  cases hytext : (d.kind y).isText with
  | false => rfl
  | true => exact absurd ⟨hytext, htext⟩ hpair

/-- Copying `c` takes a builder that has come to `c` to the number behind all that is below `c`, and
back to the same place. -/
def CopiesNode (d : Document) (n c : Nat) : Prop :=
  ∀ b : Builder, Copied d n b c → (d.parent? c).map (· + 1 - n) = some b.current →
    ((d.kind c).isText = true → ∀ l, (b.document.children b.current).getLast? = some l →
      (b.document.kind l).isText = false) →
    Copied d n (b.copy d c) (d.subtreeEnd c + 1) ∧ (b.copy d c).opened = b.opened

/-- Children are copied one after the other, each behind what is below the one before it. -/
theorem Copied.foldl_copy (hd : d.WellFormed) (hn : 0 < n) {c : Nat} (hnc : n ≤ c ∨ n = 1)
    (hcopies : ∀ x ∈ d.children c, CopiesNode d n x) {pre rest : List Nat}
    (hchildren : d.children c = pre ++ rest) {stop : Nat} (htiles : d.Tiles next rest stop)
    (h : Copied d n b next) (hcurrent : b.current = c + 1 - n) :
    Copied d n (rest.foldl (fun b x => b.copy d x) b) stop ∧
      (rest.foldl (fun b x => b.copy d x) b).opened = b.opened := by
  induction rest generalizing pre next b with
  | nil =>
      obtain rfl : next = stop := htiles
      exact ⟨h, rfl⟩
  | cons x rest ih =>
      obtain ⟨rfl, htiles⟩ := htiles
      have hx : x ∈ d.children c := hchildren ▸ List.mem_append_right _ List.mem_cons_self
      have hparent : (d.parent? x).map (· + 1 - n) = some b.current := by
        rw [hd.preorder.mem_children.mp hx, hcurrent]
        rfl
      have hseparate := h.separate hd hn hnc hchildren
      rw [← hcurrent] at hseparate
      obtain ⟨hcopied, hopened⟩ := hcopies x hx b h hparent hseparate
      have hsame : (b.copy d x).current = c + 1 - n := by
        rw [current, hopened]
        exact hcurrent
      have hsplit : d.children c = (pre ++ [x]) ++ rest := by
        rw [hchildren, List.append_assoc, List.singleton_append]
      obtain ⟨hrest, hrestOpened⟩ := ih hsplit htiles hcopied hsame
      exact ⟨hrest, hrestOpened.trans hopened⟩

theorem copiesNode_of_isInner_eq_false (hd : d.WellFormed) {c : Nat}
    (hinner : (d.kind c).isInner = false)
    (hcopy : ∀ b : Builder, b.Sound →
      ((d.kind c).isText = true → ∀ l, (b.document.children b.current).getLast? = some l →
        (b.document.kind l).isText = false) →
      b.copy d c = b.append (d.kind c) ∧ (b.append (d.kind c)).Sound) :
    CopiesNode d n c := by
  intro b h hparent hseparate
  have hleaf : d.subtreeEnd c = c := by
    refine d.subtreeEnd_of_children_eq_nil ?_
    by_contra hne
    rw [hd.inner c hne] at hinner
    cases hinner
  obtain ⟨happend, hsound⟩ := hcopy b h.sound hseparate
  rw [happend, hleaf]
  exact ⟨h.append hsound rfl hparent, rfl⟩

theorem copiesNode_element (hd : d.WellFormed) (hn : 0 < n) {c : Nat} (hnc : n ≤ c)
    {name : String} {attributes : List Attribute} (hkind : d.kind c = .element name attributes)
    (hcopies : ∀ x ∈ d.children c, CopiesNode d n x) : CopiesNode d n c := by
  intro b h hparent _
  have hsize := h.size
  have hdocument : (b.openElement name attributes).document = (b.append (d.kind c)).document := by
    rw [document_openElement, ← hkind, hd.lowered]
  have hopen : Copied d n (b.openElement name attributes) (c + 1) :=
    h.append (h.sound.openElement name attributes) hdocument hparent
  have hcurrent : (b.openElement name attributes).current = c + 1 - n := by
    rw [current_openElement]
    omega
  obtain ⟨hcopied, hopened⟩ := hopen.foldl_copy hd hn (.inl hnc) hcopies (List.nil_append _).symm
    (hd.preorder.tiles_children c) hcurrent
  rw [copy_element hkind]
  refine ⟨⟨hcopied.sound.closeCurrent, hcopied.size, hcopied.node⟩, ?_⟩
  rw [opened_closeCurrent, hopened, opened_openElement, List.tail_cons]

/-- Every node that has a number from `n` on is copied with all that is below it. -/
theorem copiesNode (hd : d.WellFormed) (hn : 0 < n) (c : Nat) (hnc : n ≤ c) (hc : c < d.size) :
    CopiesNode d n c := by
  cases hkind : d.kind c with
  | root =>
      have := (hd.root_iff c hc).mp hkind
      omega
  | text content =>
      have hne : content ≠ "" := fun heq => hd.text_ne c (heq ▸ hkind)
      refine copiesNode_of_isInner_eq_false hd (hkind ▸ rfl) fun b hsound hseparate => ?_
      have happend : b.text content = b.append (.text content) :=
        text_eq_append hne (hseparate (hkind ▸ rfl))
      rw [copy_text hkind, hkind, ← happend]
      exact ⟨rfl, hsound.text content⟩
  | comment content =>
      refine copiesNode_of_isInner_eq_false hd (hkind ▸ rfl) fun b hsound _ => ?_
      rw [copy_comment hkind, hkind]
      exact ⟨rfl, hsound.comment content⟩
  | element name attributes =>
      refine copiesNode_element hd hn hnc hkind fun x hx => ?_
      have hlt := Document.child_lt hx
      exact copiesNode hd hn x (by omega) hlt.2
  termination_by d.size - c
  decreasing_by omega

end Builder

end Harvest.Markup
