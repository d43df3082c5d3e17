import Harvest.Proofs.Markup.Ancestry
import Mathlib.Data.List.Sort

/-!
Documents numbered in preorder.

A document is in preorder when the parent of every node is the node before it or stands above that
one, and children are listed by their numbers. This says nothing of what is below a node, so it is
easily kept while a document grows; yet it follows that what is below a node is an interval of
numbers, which ends at `subtreeEnd`, and that the intervals of the children of a node stand side by
side without a gap.
-/

namespace Harvest.Markup.Document

variable (d : Document)

/-- Every node comes right after one that its parent stands above, or after its parent; children
are the nodes with that parent in the order of their numbers. -/
structure Preorder : Prop where
  parent : ∀ i, 0 < i → i < d.size → ∃ p, d.parent? i = some p ∧ d.Within p (i - 1)
  children : ∀ p, d.children p = (List.range d.size).filter fun i => d.parent? i = some p

theorem subtreeEnd_of_getLast? {n c : Nat} (h : (d.children n).getLast? = some c) :
    d.subtreeEnd n = d.subtreeEnd c := by
  rw [subtreeEnd]
  split
  · next c' hc' =>
    rw [h] at hc'
    cases hc'
    rfl
  · next hnone =>
    rw [h] at hnone
    cases hnone

theorem subtreeEnd_of_children_eq_nil {n : Nat} (h : d.children n = []) :
    d.subtreeEnd n = n := by
  rw [subtreeEnd]
  split
  · next c' hc' =>
    rw [h] at hc'
    cases hc'
  · rfl

/-- The intervals of these nodes stand side by side from a number up to another one. -/
def Tiles (start : Nat) : List Nat → Nat → Prop
  | [], stop => start = stop
  | c :: cs, stop => c = start ∧ Tiles (d.subtreeEnd c + 1) cs stop

namespace Preorder

variable {d} (h : d.Preorder)
include h

theorem mem_children {p c : Nat} : c ∈ d.children p ↔ d.parent? c = some p := by
  rw [h.children, List.mem_filter, List.mem_range, decide_eq_true_iff]
  exact ⟨fun hc => hc.2, fun hc => ⟨lt_size_of_parent? hc, hc⟩⟩

theorem within_of_mem_descendants {n k : Nat} (hk : k ∈ d.descendants n) : d.Within n k := by
  induction n using descendants.induct d with
  | case1 n ih =>
      rw [descendants_eq, List.mem_flatMap] at hk
      obtain ⟨c, hc, hk⟩ := hk
      have hwithin : d.Within n c := .of_parent? (h.mem_children.mp hc)
      rcases List.mem_cons.mp hk with rfl | hk
      · exact hwithin
      · exact hwithin.trans (ih c hc hk)

theorem pairwise_children (p : Nat) : (d.children p).Pairwise (· < ·) := by
  rw [h.children]
  exact List.pairwise_lt_range.filter _

/-- What is below a node has no gaps. -/
theorem within_of_le {n j k : Nat} (hk : d.Within n k) (hnj : n ≤ j) (hjk : j ≤ k) :
    d.Within n j := by
  induction k with
  | zero =>
      obtain rfl : j = 0 := by omega
      exact hk
  | succ k ih =>
      rcases Nat.lt_or_ge k j with hlt | hge
      · obtain rfl : j = k + 1 := by omega
        exact hk
      · obtain ⟨p, hp, hwithin⟩ := hk.parent (by omega)
        obtain ⟨q, hq, hbefore⟩ := h.parent (k + 1) (by omega) (lt_size_of_parent? hp)
        rw [hp] at hq
        cases hq
        exact ih (hwithin.trans hbefore) hge

theorem within_root {k : Nat} (hk : k < d.size) : d.Within 0 k := by
  induction k using Nat.strongRecOn with
  | _ k ih =>
      rcases Nat.eq_zero_or_pos k with rfl | hpos
      · exact .here
      · obtain ⟨p, hp, _⟩ := h.parent k hpos hk
        have hlt := lt_of_parent? hp
        exact .under hp (ih p hlt (Nat.lt_trans hlt hk))

theorem within_subtreeEnd (n : Nat) : d.Within n (d.subtreeEnd n) := by
  induction n using subtreeEnd.induct d with
  | case1 n c hc ih =>
      rw [d.subtreeEnd_of_getLast? hc]
      have hparent := h.mem_children.mp (List.mem_of_getLast? hc)
      exact (Within.of_parent? hparent).trans ih
  | case2 n hnone =>
      rw [d.subtreeEnd_of_children_eq_nil (List.getLast?_eq_none_iff.mp hnone)]
      exact .here

theorem le_getLast? {p c l : Nat} (hc : c ∈ d.children p)
    (hl : (d.children p).getLast? = some l) : c ≤ l := by
  obtain ⟨init, hinit⟩ := List.getLast?_eq_some_iff.mp hl
  have hsorted := h.pairwise_children p
  rw [hinit] at hc hsorted
  rcases List.mem_append.mp hc with hc | hc
  · exact Nat.le_of_lt ((List.pairwise_append.mp hsorted).2.2 c hc l (List.mem_singleton_self l))
  · exact Nat.le_of_eq (List.mem_singleton.mp hc)

theorem le_subtreeEnd {n k : Nat} (hk : d.Within n k) : k ≤ d.subtreeEnd n := by
  induction n using subtreeEnd.induct d with
  | case1 n l hl ih =>
      have hparent := h.mem_children.mp (List.mem_of_getLast? hl)
      rw [d.subtreeEnd_of_getLast? hl]
      rcases Nat.lt_or_ge k l with hlt | hge
      · have := (h.within_subtreeEnd l).le
        omega
      · -- The child that `k` is below has the last child below it as well, so it is the last one.
        have hne : k ≠ n := by
          have := lt_of_parent? hparent
          omega
        obtain ⟨c, hc, hwithin⟩ := hk.child hne
        have hcl := h.le_getLast? (h.mem_children.mpr hc) hl
        obtain rfl := Within.eq_of_siblings hc hparent (h.within_of_le hwithin hcl hge) .here
        exact ih hwithin
  | case2 n hnone =>
      have hnil := List.getLast?_eq_none_iff.mp hnone
      rw [d.subtreeEnd_of_children_eq_nil hnil]
      by_cases hne : k = n
      · exact Nat.le_of_eq hne
      · obtain ⟨c, hc, _⟩ := hk.child hne
        have hmem := h.mem_children.mpr hc
        rw [hnil] at hmem
        cases hmem

/-- What is below a node is the interval from it up to `subtreeEnd`. -/
theorem within_iff {n k : Nat} : d.Within n k ↔ n ≤ k ∧ k ≤ d.subtreeEnd n :=
  ⟨fun hk => ⟨hk.le, h.le_subtreeEnd hk⟩,
    fun hk => h.within_of_le (h.within_subtreeEnd n) hk.1 hk.2⟩

theorem le_subtreeEnd_self (n : Nat) : n ≤ d.subtreeEnd n := (h.within_subtreeEnd n).le

/-- The intervals of siblings lie apart, in the order of the siblings. -/
theorem subtreeEnd_lt_of_siblings {x y p : Nat} (hx : d.parent? x = some p)
    (hy : d.parent? y = some p) (hxy : x < y) : d.subtreeEnd x < y := by
  by_contra hge
  have hwithin : d.Within x y := h.within_iff.mpr ⟨Nat.le_of_lt hxy, Nat.le_of_not_lt hge⟩
  have heq := Within.eq_of_siblings hx hy hwithin .here
  omega

/-- What is below a node, the node left out, is covered by the intervals of its children. -/
theorem exists_child {n k : Nat} (hnk : n < k) (hk : k ≤ d.subtreeEnd n) :
    ∃ c ∈ d.children n, c ≤ k ∧ k ≤ d.subtreeEnd c := by
  have hwithin : d.Within n k := h.within_iff.mpr ⟨Nat.le_of_lt hnk, hk⟩
  obtain ⟨c, hc, hck⟩ := hwithin.child (Nat.ne_of_gt hnk)
  exact ⟨c, h.mem_children.mpr hc, h.within_iff.mp hck⟩

theorem le_subtreeEnd_of_mem_children {n c : Nat} (hc : c ∈ d.children n) :
    c ≤ d.subtreeEnd n :=
  h.le_subtreeEnd (.of_parent? (h.mem_children.mp hc))

/-- The first child comes right after its parent. -/
theorem first_child {n c : Nat} {rest : List Nat} (hchildren : d.children n = c :: rest) :
    c = n + 1 := by
  have hc : c ∈ d.children n := hchildren ▸ List.mem_cons_self
  have hlt := lt_of_parent? (h.mem_children.mp hc)
  have hend := h.le_subtreeEnd_of_mem_children hc
  obtain ⟨x, hx, hle, _⟩ := h.exists_child (Nat.lt_succ_self n) (by omega : n + 1 ≤ _)
  have hxlt := lt_of_parent? (h.mem_children.mp hx)
  have hsorted := h.pairwise_children n
  rw [hchildren] at hx hsorted
  rcases List.mem_cons.mp hx with rfl | hx
  · omega
  · have := (List.pairwise_cons.mp hsorted).1 x hx
    omega

/-- The next sibling comes right after all that is below the one before it. -/
theorem next_sibling {n b c : Nat} {before rest : List Nat}
    (hchildren : d.children n = before ++ b :: c :: rest) : c = d.subtreeEnd b + 1 := by
  have hparent {x : Nat} (hx : x ∈ d.children n) : d.parent? x = some n := h.mem_children.mp hx
  have hb : b ∈ d.children n := hchildren ▸ by simp
  have hc : c ∈ d.children n := hchildren ▸ by simp
  have hsorted := h.pairwise_children n
  rw [hchildren] at hsorted
  obtain ⟨_, htail, hacross⟩ := List.pairwise_append.mp hsorted
  obtain ⟨hfirst, hrest⟩ := List.pairwise_cons.mp htail
  have hbc := h.subtreeEnd_lt_of_siblings (hparent hb) (hparent hc)
    (hfirst c List.mem_cons_self)
  have hnb := lt_of_parent? (hparent hb)
  have hbend := h.le_subtreeEnd_self b
  have hcend := h.le_subtreeEnd_of_mem_children hc
  -- The number behind `b` and all below it belongs to a child, which can only be `c`.
  obtain ⟨x, hx, hle, hxend⟩ :=
    h.exists_child (by omega : n < d.subtreeEnd b + 1) (by omega)
  have hxparent := hparent hx
  rw [hchildren] at hx
  rcases List.mem_append.mp hx with hx | hx
  · have := h.subtreeEnd_lt_of_siblings hxparent (hparent hb) (hacross x hx b List.mem_cons_self)
    omega
  · rcases List.mem_cons.mp hx with rfl | hx
    · omega
    · rcases List.mem_cons.mp hx with rfl | hx
      · omega
      · have := (List.pairwise_cons.mp hrest).1 x hx
        omega

theorem tiles_siblings {n b : Nat} {before rest : List Nat}
    (hchildren : d.children n = before ++ b :: rest) :
    d.Tiles (d.subtreeEnd b + 1) rest (d.subtreeEnd n + 1) := by
  induction rest generalizing before b with
  | nil =>
      have hlast : (d.children n).getLast? = some b := by
        rw [hchildren, List.getLast?_concat]
      rw [d.subtreeEnd_of_getLast? hlast]
      rfl
  | cons c rest ih =>
      refine ⟨h.next_sibling hchildren, ih (b := c) (?_ : _ = (before ++ [b]) ++ c :: rest)⟩
      rw [hchildren, List.append_assoc, List.singleton_append]

/-- The children of a node with what is below them make up all that is below the node. -/
theorem tiles_children (n : Nat) : d.Tiles (n + 1) (d.children n) (d.subtreeEnd n + 1) := by
  cases hchildren : d.children n with
  | nil =>
      rw [d.subtreeEnd_of_children_eq_nil hchildren]
      rfl
  | cons c rest =>
      exact ⟨h.first_child hchildren,
        h.tiles_siblings (hchildren.trans (List.nil_append _).symm)⟩

/-- The nodes below the nodes whose intervals stand side by side, each after its own, are the
numbers of these intervals. -/
theorem flatMap_of_tiles {cs : List Nat} {start stop : Nat} (htiles : d.Tiles start cs stop)
    (hcs : ∀ c ∈ cs, d.descendants c = List.range' (c + 1) (d.subtreeEnd c - c)) :
    start ≤ stop ∧ cs.flatMap (fun c => c :: d.descendants c) = List.range' start (stop - start) := by
  induction cs generalizing start with
  | nil =>
      obtain rfl : start = stop := htiles
      exact ⟨Nat.le_refl _, by simp⟩
  | cons c cs ih =>
      obtain ⟨rfl, htiles⟩ := htiles
      obtain ⟨hle, hrest⟩ := ih htiles fun x hx => hcs x (List.mem_cons_of_mem _ hx)
      have hend := h.le_subtreeEnd_self c
      refine ⟨by omega, ?_⟩
      have hhead : c :: d.descendants c = List.range' c (d.subtreeEnd c + 1 - c) := by
        have hlength : d.subtreeEnd c + 1 - c = (d.subtreeEnd c - c) + 1 := by omega
        rw [hcs c List.mem_cons_self, hlength, List.range'_succ]
      calc
        (c :: cs).flatMap (fun c => c :: d.descendants c) =
            List.range' c (d.subtreeEnd c + 1 - c) ++
              List.range' (c + (d.subtreeEnd c + 1 - c)) (stop - (d.subtreeEnd c + 1)) := by
          have hstart : c + (d.subtreeEnd c + 1 - c) = d.subtreeEnd c + 1 := by omega
          rw [List.flatMap_cons, hhead, hrest, hstart]
        _ = List.range' c (stop - c) := by
          rw [List.range'_append_1]
          congr 1
          omega

/-- A walk below a node, depth first, counts through the interval behind its number. -/
theorem descendants_eq_range' (n : Nat) :
    d.descendants n = List.range' (n + 1) (d.subtreeEnd n - n) := by
  induction n using descendants.induct d with
  | case1 n ih =>
      have hwalk := (h.flatMap_of_tiles (h.tiles_children n) ih).2
      rw [descendants_eq, hwalk]
      congr 1
      omega

theorem subtreeEnd_zero : d.subtreeEnd 0 = d.size - 1 := by
  have hpos : 0 < d.size := d.size_pos
  have hlast := h.le_subtreeEnd (h.within_root (by omega : d.size - 1 < d.size))
  have hlt := (h.within_subtreeEnd 0).lt_size hpos
  omega

/-- The children of a node end with the one that the newest node is below. -/
theorem getLast?_children {p c : Nat} (hp : d.parent? c = some p)
    (hc : d.Within c (d.size - 1)) : (d.children p).getLast? = some c := by
  have hmem := h.mem_children.mpr hp
  obtain ⟨l, hl⟩ : ∃ l, (d.children p).getLast? = some l := by
    cases hlast : (d.children p).getLast? with
    | none =>
        rw [List.getLast?_eq_none_iff.mp hlast] at hmem
        cases hmem
    | some l => exact ⟨l, rfl⟩
  have hparent := h.mem_children.mp (List.mem_of_getLast? hl)
  have hlt := lt_size_of_parent? hparent
  have hle := h.le_getLast? hmem hl
  have hwithin : d.Within c l := h.within_of_le hc hle (by omega)
  obtain rfl := Within.eq_of_siblings hp hparent hwithin .here
  exact hl

end Preorder

end Harvest.Markup.Document
