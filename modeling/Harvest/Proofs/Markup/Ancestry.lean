import Harvest.Proofs.Markup.Growth

/-!
What stands below a node.

`Within n k` says that a walk up from `k` comes through `n`. Parents have smaller numbers, so this
is a partial order that refines the order of numbers; and as a node has one parent at most, two
nodes above a third one are comparable.
-/

namespace Harvest.Markup.Document

variable (d : Document)

/-- A node is `n` or stands below `n`. -/
inductive Within (n : Nat) : Nat → Prop
  | here : Within n n
  | under {k p : Nat} : d.parent? k = some p → Within n p → Within n k

theorem ancestors_of_parent? {k p : Nat} (h : d.parent? k = some p) :
    d.ancestors k = p :: d.ancestors p := by
  rw [ancestors]
  split
  · next q hq =>
    rw [h] at hq
    cases hq
    rfl
  · next hnone =>
    rw [h] at hnone
    cases hnone

theorem ancestors_of_parent?_eq_none {k : Nat} (h : d.parent? k = none) :
    d.ancestors k = [] := by
  rw [ancestors]
  split
  · next q hq =>
    rw [h] at hq
    cases hq
  · rfl

namespace Within

variable {d} {n m k : Nat}

theorem le (h : d.Within n k) : n ≤ k := by
  induction h with
  | here => exact Nat.le_refl n
  | under hp _ ih =>
      have := lt_of_parent? hp
      omega

theorem trans (hnm : d.Within n m) (hmk : d.Within m k) : d.Within n k := by
  induction hmk with
  | here => exact hnm
  | under hp _ ih => exact .under hp ih

theorem of_parent? {p : Nat} (h : d.parent? k = some p) : d.Within p k := .under h .here

/-- What stands below a node is within the parent that a walk up comes to first. -/
theorem parent (h : d.Within n k) (hne : k ≠ n) :
    ∃ p, d.parent? k = some p ∧ d.Within n p := by
  cases h with
  | here => exact absurd rfl hne
  | under hp hwithin => exact ⟨_, hp, hwithin⟩

/-- What stands below a node is within the child of the node that a walk up comes through. -/
theorem child (h : d.Within n k) (hne : k ≠ n) :
    ∃ c, d.parent? c = some n ∧ d.Within c k := by
  induction h with
  | here => exact absurd rfl hne
  | @under k p hp _ ih =>
      by_cases hpn : p = n
      · subst hpn
        exact ⟨k, hp, .here⟩
      · obtain ⟨c, hc, hwithin⟩ := ih hpn
        exact ⟨c, hc, .under hp hwithin⟩

theorem comparable (hn : d.Within n k) (hm : d.Within m k) : d.Within n m ∨ d.Within m n := by
  induction hn with
  | here => exact .inr hm
  | @under k p hp hwithin ih =>
      cases hm with
      | here => exact .inl (.under hp hwithin)
      | under hq hm =>
          rw [hp] at hq
          cases hq
          exact ih hm

/-- Different children of a node have nothing below them in common. -/
theorem eq_of_siblings {c c' p : Nat} (hc : d.parent? c = some p) (hc' : d.parent? c' = some p)
    (h : d.Within c k) (h' : d.Within c' k) : c = c' := by
  have hsame {x y : Nat} (hx : d.parent? x = some p) (hy : d.parent? y = some p)
      (hxy : d.Within x y) : x = y := by
    by_cases heq : y = x
    · exact heq.symm
    · obtain ⟨q, hq, hwithin⟩ := hxy.parent heq
      rw [hy] at hq
      cases hq
      have := hwithin.le
      have := lt_of_parent? hx
      omega
  rcases h.comparable h' with h | h
  · exact hsame hc hc' h
  · exact (hsame hc' hc h).symm

theorem lt_size (h : d.Within n k) (hn : n < d.size) : k < d.size := by
  cases h with
  | here => exact hn
  | under hp _ => exact lt_size_of_parent? hp

end Within

theorem within_of_mem_ancestors {d : Document} {a k : Nat} (h : a ∈ d.ancestors k) :
    d.Within a k := by
  induction k using Nat.strongRecOn with
  | _ k ih =>
      cases hk : d.parent? k with
      | none =>
          rw [ancestors_of_parent?_eq_none _ hk] at h
          cases h
      | some p =>
          rw [ancestors_of_parent? _ hk] at h
          rcases List.mem_cons.mp h with rfl | h
          · exact .of_parent? hk
          · exact .under hk (ih p (lt_of_parent? hk) h)

theorem mem_ancestors_iff {d : Document} {j k : Nat} :
    j ∈ d.ancestors k ↔ d.Within j k ∧ j ≠ k := by
  induction k using Nat.strongRecOn with
  | _ k ih =>
      cases hk : d.parent? k with
      | none =>
          rw [d.ancestors_of_parent?_eq_none hk]
          refine iff_of_false List.not_mem_nil ?_
          rintro ⟨hwithin, hne⟩
          obtain ⟨p, hp, _⟩ := hwithin.parent (Ne.symm hne)
          rw [hk] at hp
          cases hp
      | some p =>
          have hlt := lt_of_parent? hk
          rw [d.ancestors_of_parent? hk, List.mem_cons, ih p hlt]
          constructor
          · rintro (rfl | ⟨hwithin, _⟩)
            · exact ⟨.of_parent? hk, by omega⟩
            · have := hwithin.le
              exact ⟨.under hk hwithin, by omega⟩
          · rintro ⟨hwithin, hne⟩
            obtain ⟨q, hq, hwithin⟩ := hwithin.parent (Ne.symm hne)
            rw [hk] at hq
            cases hq
            by_cases heq : j = p
            · exact .inl heq
            · exact .inr ⟨hwithin, heq⟩

/-- A walk up meets smaller and smaller numbers. -/
theorem pairwise_ancestors (d : Document) (k : Nat) :
    (k :: d.ancestors k).Pairwise (· > ·) := by
  induction k using Nat.strongRecOn with
  | _ k ih =>
      refine List.pairwise_cons.mpr ⟨fun j hj => ?_, ?_⟩
      · obtain ⟨hwithin, hne⟩ := mem_ancestors_iff.mp hj
        exact Nat.lt_of_le_of_ne hwithin.le hne
      · cases hk : d.parent? k with
        | none =>
            rw [d.ancestors_of_parent?_eq_none hk]
            exact .nil
        | some p =>
            rw [d.ancestors_of_parent? hk]
            exact ih p (lt_of_parent? hk)

/-- A parent never changes, so growth keeps what is below what. -/
theorem within_append {d : Document} {p : Nat} {hp : p < d.size} {kind : NodeKind} {n k : Nat}
    (h : d.Within n k) : (d.append p hp kind).Within n k := by
  induction h with
  | here => exact .here
  | under hk _ ih =>
      have hlt := lt_size_of_parent? hk
      exact .under ((d.parent?_append_of_lt hp kind hlt).trans hk) ih

theorem within_extendText {d : Document} {id : Nat} {more : String} {n k : Nat}
    (h : d.Within n k) : (d.extendText id more).Within n k := by
  induction h with
  | here => exact .here
  | under hk _ ih => exact .under ((d.parent?_extendText id more _).trans hk) ih

theorem ancestors_append {p : Nat} (hp : p < d.size) (kind : NodeKind) {k : Nat}
    (h : k < d.size) : (d.append p hp kind).ancestors k = d.ancestors k := by
  induction k using Nat.strongRecOn with
  | _ k ih =>
      have hparent := d.parent?_append_of_lt hp kind h
      cases hk : d.parent? k with
      | none =>
          rw [ancestors_of_parent?_eq_none _ (hparent.trans hk), ancestors_of_parent?_eq_none _ hk]
      | some q =>
          have hq := lt_of_parent? hk
          rw [ancestors_of_parent? _ (hparent.trans hk), ancestors_of_parent? _ hk,
            ih q hq (Nat.lt_trans hq h)]

theorem ancestors_extendText (id : Nat) (more : String) (k : Nat) :
    (d.extendText id more).ancestors k = d.ancestors k := by
  induction k using Nat.strongRecOn with
  | _ k ih =>
      have hparent := d.parent?_extendText id more k
      cases hk : d.parent? k with
      | none =>
          rw [ancestors_of_parent?_eq_none _ (hparent.trans hk), ancestors_of_parent?_eq_none _ hk]
      | some q =>
          rw [ancestors_of_parent? _ (hparent.trans hk), ancestors_of_parent? _ hk,
            ih q (lt_of_parent? hk)]

theorem descendants_eq (n : Nat) :
    d.descendants n = (d.children n).flatMap fun c => c :: d.descendants c := by
  rw [descendants, List.flatMap_subtype (g := fun c => c :: d.descendants c) fun _ _ => rfl,
    List.unattach_attach]

/-- The character data that a node adds to that of its parent. -/
def dataOf (id : Nat) : String :=
  match d.kind id with
  | .text content => content
  | .element _ _ => d.textBelow id
  | _ => ""

theorem textBelow_eq (n : Nat) :
    d.textBelow n = String.join ((d.children n).map d.dataOf) := by
  rw [textBelow, List.map_subtype (g := d.dataOf) fun _ _ => rfl, List.unattach_attach]

end Harvest.Markup.Document
