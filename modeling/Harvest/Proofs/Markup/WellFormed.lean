import Harvest.Proofs.Markup.Preorder
import Mathlib.Data.List.Chain

/-!
The documents that builders make, and how they stay so.

Beside the numbering these documents have whole texts and names in lower case. Every clause is
followed through the two ways in which a document grows.
-/

namespace Harvest.Text

theorem toNat_lowerAsciiChar {c : Char} (h : 65 ≤ c.toNat ∧ c.toNat ≤ 90) :
    (lowerAsciiChar c).toNat = c.toNat + 32 := by
  have hvalid : (c.toNat + 32).isValidChar := by
    left
    omega
  have hlower : lowerAsciiChar c = Char.ofNat (c.toNat + 32) := if_pos h
  rw [hlower, Char.ofNat, dif_pos hvalid]
  rfl

theorem lowerAsciiChar_lowerAsciiChar (c : Char) :
    lowerAsciiChar (lowerAsciiChar c) = lowerAsciiChar c := by
  by_cases h : 65 ≤ c.toNat ∧ c.toNat ≤ 90
  · refine if_neg ?_
    rw [toNat_lowerAsciiChar h]
    omega
  · have hlower : lowerAsciiChar c = c := if_neg h
    rw [hlower, hlower]

theorem lowerAscii_lowerAscii (s : String) : lowerAscii (lowerAscii s) = lowerAscii s := by
  simp [lowerAscii, Function.comp_def, lowerAsciiChar_lowerAsciiChar]

end Harvest.Text

namespace Harvest.Markup

open Harvest.Text

def NodeKind.lowered : NodeKind → NodeKind
  | .element name attributes =>
    .element (lowerAscii name) (attributes.map fun (key, value) => (lowerAscii key, value))
  | kind => kind

@[simp] theorem NodeKind.lowered_lowered (kind : NodeKind) :
    kind.lowered.lowered = kind.lowered := by
  cases kind <;> simp [lowered, lowerAscii_lowerAscii]

theorem NodeKind.lowered_extend (more : String) (kind : NodeKind) :
    (kind.extend more).lowered = kind.lowered.extend more := by
  cases kind <;> rfl

namespace Document

structure WellFormed (d : Document) : Prop where
  preorder : d.Preorder
  root_iff : ∀ i, i < d.size → (d.kind i = .root ↔ i = 0)
  inner : ∀ p, d.children p ≠ [] → (d.kind p).isInner = true
  /-- Of two neighbours only one is a text. -/
  separate : ∀ p, (d.children p).IsChain fun x y =>
    ¬ ((d.kind x).isText = true ∧ (d.kind y).isText = true)
  text_ne : ∀ i, d.kind i ≠ .text ""
  lowered : ∀ i, (d.kind i).lowered = d.kind i

theorem Preorder.append {d : Document} (h : d.Preorder) {p : Nat} (hp : p < d.size)
    (hfront : d.Within p (d.size - 1)) (kind : NodeKind) : (d.append p hp kind).Preorder where
  parent := by
    intro i hpos hi
    rw [size_append] at hi
    rcases Nat.lt_or_ge i d.size with hlt | hge
    · obtain ⟨q, hq, hwithin⟩ := h.parent i hpos hlt
      exact ⟨q, (d.parent?_append_of_lt hp kind hlt).trans hq, within_append hwithin⟩
    · obtain rfl : i = d.size := by omega
      exact ⟨p, d.parent?_append_size p hp kind, within_append hfront⟩
  children := by
    intro q
    have hold : (List.range d.size).filter (fun i => (d.append p hp kind).parent? i = some q) =
        d.children q := by
      rw [h.children]
      refine List.filter_congr fun i hi => ?_
      rw [d.parent?_append_of_lt hp kind (List.mem_range.mp hi)]
    rw [size_append, List.range_succ, List.filter_append, hold, children_append]
    by_cases hq : q = p
    · subst hq
      simp
    · have hpq : p ≠ q := Ne.symm hq
      simp [hq, hpq]

theorem Preorder.extendText {d : Document} (h : d.Preorder) (id : Nat) (more : String) :
    (d.extendText id more).Preorder where
  parent := by
    intro i hpos hi
    rw [size_extendText] at hi
    obtain ⟨q, hq, hwithin⟩ := h.parent i hpos hi
    exact ⟨q, (d.parent?_extendText id more i).trans hq, within_extendText hwithin⟩
  children := by
    intro q
    simp only [children_extendText, size_extendText, parent?_extendText]
    exact h.children q

/-- A last child keeps a document well-formed where it may stand. -/
theorem WellFormed.append {d : Document} (h : d.WellFormed) {p : Nat} (hp : p < d.size)
    (hfront : d.Within p (d.size - 1)) (hinner : (d.kind p).isInner = true) {kind : NodeKind}
    (hroot : kind ≠ .root) (hempty : kind ≠ .text "") (hlowered : kind.lowered = kind)
    (htext : kind.isText = true → ∀ l, (d.children p).getLast? = some l →
      (d.kind l).isText = false) :
    (d.append p hp kind).WellFormed where
  preorder := h.preorder.append hp hfront kind
  root_iff := by
    intro i hi
    rw [size_append] at hi
    rcases Nat.lt_or_ge i d.size with hlt | hge
    · rw [d.kind_append_of_lt hp kind hlt]
      exact h.root_iff i hlt
    · obtain rfl : i = d.size := by omega
      rw [kind_append_size]
      exact iff_of_false hroot (Nat.ne_of_gt d.size_pos)
  inner := by
    intro q hq
    rw [children_append] at hq
    by_cases heq : q = p
    · subst heq
      rw [d.kind_append_of_lt hp kind hp]
      exact hinner
    · rw [if_neg heq] at hq
      have hlt : q < d.size := Nat.lt_of_not_le fun hle => hq (d.children_of_size_le hle)
      rw [d.kind_append_of_lt hp kind hlt]
      exact h.inner q hq
  separate := by
    intro q
    have hold : (d.children q).IsChain fun x y =>
        ¬ (((d.append p hp kind).kind x).isText = true ∧
          ((d.append p hp kind).kind y).isText = true) := by
      refine List.IsChain.imp_of_mem_imp ?_ (h.separate q)
      intro x y hx hy hxy
      rw [d.kind_append_of_lt hp kind (child_lt hx).2, d.kind_append_of_lt hp kind (child_lt hy).2]
      exact hxy
    rw [children_append]
    by_cases heq : q = p
    · subst heq
      rw [if_pos rfl]
      refine hold.append (List.isChain_singleton _) ?_
      intro x hx y hy hboth
      obtain rfl : d.size = y := by simpa using hy
      have hxlt := (child_lt (List.mem_of_getLast? hx)).2
      rw [d.kind_append_of_lt hp kind hxlt, kind_append_size] at hboth
      have := htext hboth.2 x hx
      rw [hboth.1] at this
      cases this
    · rw [if_neg heq]
      exact hold
  text_ne := by
    intro i
    rw [kind_append]
    split
    · exact hempty
    · exact h.text_ne i
  lowered := by
    intro i
    rw [kind_append]
    split
    · exact hlowered
    · exact h.lowered i

theorem WellFormed.extendText {d : Document} (h : d.WellFormed) (id : Nat) {more : String}
    (hmore : more ≠ "") : (d.extendText id more).WellFormed where
  preorder := h.preorder.extendText id more
  root_iff := by
    intro i hi
    rw [kind_extendText]
    split
    · rw [← h.root_iff i (by simpa using hi)]
      cases d.kind i <;> simp [NodeKind.extend]
    · exact h.root_iff i (by simpa using hi)
  inner := by
    intro p hp
    rw [children_extendText] at hp
    rw [kind_extendText]
    split
    · rw [NodeKind.isInner_extend]
      exact h.inner p hp
    · exact h.inner p hp
  separate := by
    intro p
    have htext (i : Nat) : ((d.extendText id more).kind i).isText = (d.kind i).isText := by
      rw [kind_extendText]
      split
      · exact NodeKind.isText_extend more _
      · rfl
    simp only [children_extendText, htext]
    exact h.separate p
  text_ne := by
    intro i
    rw [kind_extendText]
    split
    · have := h.text_ne i
      cases hkind : d.kind i <;> simp_all [NodeKind.extend]
    · exact h.text_ne i
  lowered := by
    intro i
    rw [kind_extendText]
    split
    · rw [NodeKind.lowered_extend, h.lowered]
    · exact h.lowered i

end Document

end Harvest.Markup
