import Harvest.Proofs.Markup.Building
import Harvest.Text.Letter
import Mathlib.Data.List.TakeWhile

/-!
The tree that a builder has made, and the place where it builds.

All that is said of the tree follows from two facts: parents come before their children, and the
parent of a node is the node before it or stands above that one. The open elements are told from the
tree alone: the newest node is inside each of them, so each is the last child of the one around it.
-/

namespace Harvest.Text

/-- A name that lower case leaves as it is has no capitals. -/
theorem isAsciiUpper_eq_false_of_lowered {s : String} (h : lowerAscii s = s) :
    ∀ c ∈ s.toList, isAsciiUpper c = false := by
  intro c hc
  have hmap : s.toList.map lowerAsciiChar = s.toList.map id := by
    rw [List.map_id, ← String.toList_ofList (l := s.toList.map lowerAsciiChar)]
    exact congrArg String.toList h
  have hsame : lowerAsciiChar c = c := List.map_eq_map_iff.mp hmap c hc
  rw [isAsciiUpper, Bool.and_eq_false_iff, decide_eq_false_iff_not, decide_eq_false_iff_not]
  by_contra hupper
  have htoNat := toNat_lowerAsciiChar (c := c) (by omega)
  rw [hsame] at htoNat
  omega

end Harvest.Text

namespace Harvest.Markup

open Harvest.Text

namespace Document

/-- A tree numbered in the order of a walk through it, with whole texts and names in lower case. -/
structure IsPreorderTree (d : Document) : Prop where
  root_iff : ∀ i, i < d.size → (d.kind i = .root ↔ i = 0)
  parent?_eq_none_iff : ∀ i, i < d.size → (d.parent? i = none ↔ i = 0)
  /-- Any other node comes after its parent and stands among the children of this one once, and
  among those of no other node. -/
  parent : ∀ i, 0 < i → i < d.size → ∃ p, d.parent? i = some p ∧ p < i ∧
    (d.children p).count i = 1 ∧ ∀ q, i ∈ d.children q → q = p
  sorted : ∀ p, (d.children p).Pairwise (· < ·)
  /-- A walk from the root, depth first, meets the numbers one after the other. -/
  walk : 0 :: d.descendants 0 = List.range d.size
  leaf : ∀ p, (d.kind p).isInner = false → d.children p = []
  text_ne : ∀ i, d.kind i ≠ .text ""
  /-- Of two neighbours only one is a text. -/
  separate : ∀ p, (d.children p).IsChain fun x y =>
    ¬ ((d.kind x).isText = true ∧ (d.kind y).isText = true)
  name_lower : ∀ i name, d.name? i = some name → ∀ c ∈ name.toList, isAsciiUpper c = false
  attributes_lower : ∀ i, ∀ a ∈ d.attributes i, ∀ c ∈ a.1.toList, isAsciiUpper c = false

theorem WellFormed.parent?_eq_none_iff {d : Document} (h : d.WellFormed) {i : Nat}
    (hi : i < d.size) : d.parent? i = none ↔ i = 0 := by
  constructor
  · intro hnone
    by_contra hne
    obtain ⟨p, hp, _⟩ := h.preorder.parent i (Nat.pos_of_ne_zero hne) hi
    rw [hnone] at hp
    cases hp
  · rintro rfl
    exact d.parent?_zero

/-- A node stands once among the children of its parent. -/
theorem Preorder.count_children {d : Document} (h : d.Preorder) {p c : Nat}
    (hp : d.parent? c = some p) : (d.children p).count c = 1 :=
  List.count_eq_one_of_mem (h.pairwise_children p).nodup (h.mem_children.mpr hp)

theorem Preorder.walk {d : Document} (h : d.Preorder) :
    0 :: d.descendants 0 = List.range d.size := by
  have hpos : 0 < d.size := d.size_pos
  have hsize : d.size = (d.size - 1) + 1 := by omega
  rw [h.descendants_eq_range', h.subtreeEnd_zero, List.range_eq_range']
  conv_rhs => rw [hsize, List.range'_succ]
  rfl

theorem WellFormed.isPreorderTree {d : Document} (h : d.WellFormed) : d.IsPreorderTree where
  root_iff := h.root_iff
  parent?_eq_none_iff _ hi := h.parent?_eq_none_iff hi
  parent := by
    intro i hpos hi
    obtain ⟨p, hp, _⟩ := h.preorder.parent i hpos hi
    refine ⟨p, hp, lt_of_parent? hp, h.preorder.count_children hp, fun q hq => ?_⟩
    have hq := h.preorder.mem_children.mp hq
    rw [hp] at hq
    exact (Option.some.inj hq).symm
  sorted := h.preorder.pairwise_children
  walk := h.preorder.walk
  leaf := by
    intro p hp
    by_contra hne
    rw [h.inner p hne] at hp
    cases hp
  text_ne := h.text_ne
  separate := h.separate
  name_lower := by
    intro i name hname
    have hlowered := h.lowered i
    rw [name?] at hname
    cases hkind : d.kind i with
    | element name' attributes =>
        rw [hkind] at hname hlowered
        cases hname
        exact isAsciiUpper_eq_false_of_lowered (NodeKind.element.inj hlowered).1
    | root | text _ | comment _ =>
        rw [hkind] at hname
        cases hname
  attributes_lower := by
    intro i a ha
    have hlowered := h.lowered i
    rw [attributes] at ha
    cases hkind : d.kind i with
    | element name' attributes =>
        rw [hkind] at ha hlowered
        have hmap := (NodeKind.element.inj hlowered).2.trans (List.map_id attributes).symm
        have hsame := List.map_eq_map_iff.mp hmap a ha
        exact isAsciiUpper_eq_false_of_lowered (congrArg Prod.fst hsame)
    | root | text _ | comment _ =>
        rw [hkind] at ha
        cases ha

/-- A walk up goes from each node to its parent. -/
theorem isChain_ancestors (d : Document) (k : Nat) :
    (k :: d.ancestors k).IsChain fun c p => d.parent? c = some p := by
  induction k using Nat.strongRecOn with
  | _ k ih =>
      cases hk : d.parent? k with
      | none =>
          rw [d.ancestors_of_parent?_eq_none hk]
          exact List.isChain_singleton _
      | some p =>
          rw [d.ancestors_of_parent? hk]
          exact List.isChain_cons_cons.mpr ⟨hk, ih p (lt_of_parent? hk)⟩

end Document

namespace Builder

variable {b : Builder}

/-- The root and the open elements, outermost first: the way to the place where a builder builds. -/
def path (b : Builder) : List Nat := 0 :: b.opened.reverse

theorem reverse_path (h : b.Sound) :
    b.path.reverse = b.current :: b.document.ancestors b.current := by
  rw [path, List.reverse_cons, List.reverse_reverse, h.path]

/-- Each node on the way to the current one is the last child of the node before it. -/
theorem isChain_path (h : b.Sound) :
    b.path.IsChain fun p c => (b.document.children p).getLast? = some c := by
  rw [← List.reverse_reverse b.path, List.isChain_reverse, reverse_path h]
  refine List.IsChain.imp_of_mem_imp ?_ (b.document.isChain_ancestors b.current)
  intro c p hc _ hp
  -- The newest node is below the current one, so it is below everything on the way.
  have hcurrent : b.document.Within c b.current := by
    rcases List.mem_cons.mp hc with rfl | hc
    · exact .here
    · exact Document.within_of_mem_ancestors hc
  exact h.document.preorder.getLast?_children hp (hcurrent.trans h.front)

theorem closeElement?_eq_none_iff {name : String} : b.closeElement? name = none ↔
    ∀ i ∈ b.opened, b.document.name? i ≠ some (lowerAscii name) := by
  have hfrom : b.closeElement? name = none ↔ b.openedFrom name = [] := by
    unfold closeElement?
    split <;> simp_all
  rw [hfrom, openedFrom, List.dropWhile_eq_nil_iff]
  simp

/-- What is closed is the innermost open element of the name and what is open inside it. -/
theorem exists_of_closeElement?_eq_some {name : String} {b' : Builder}
    (h : b.closeElement? name = some b') :
    ∃ inner i, b.opened = inner ++ i :: b'.opened ∧
      b.document.name? i = some (lowerAscii name) ∧
      ∀ j ∈ inner, b.document.name? j ≠ some (lowerAscii name) := by
  obtain ⟨_, i, hfrom⟩ := closeElement?_eq_some h
  let misses (i : Nat) : Bool := b.document.name? i != some (lowerAscii name)
  refine ⟨b.opened.takeWhile misses, i, ?_, ?_, ?_⟩
  · calc
      b.opened = b.opened.takeWhile misses ++ b.openedFrom name :=
        List.takeWhile_append_dropWhile.symm
      _ = _ := by rw [hfrom]
  · have hhead : (b.openedFrom name).head? = some i := by rw [hfrom, List.head?_cons]
    have hnot := List.head?_dropWhile_not misses b.opened
    rw [show b.opened.dropWhile misses = b.openedFrom name from rfl, hhead] at hnot
    simpa [misses] using hnot
  · intro j hj
    simpa [misses] using List.mem_takeWhile_imp hj

/-- Whatever the steps of a builder, its document is a tree numbered in the order of a walk; the
open elements are the way from the root to the current node, each the last child of the one around
it; and closing a name leaves the builder as it is if no element of that name is open, or else
closes the innermost such element with all that is open inside it, and nothing else. -/
theorem run_isPreorderTree (steps : List BuildStep) :
    (run steps).document.IsPreorderTree ∧
      (run steps).path.reverse =
        (run steps).current :: (run steps).document.ancestors (run steps).current ∧
      ((run steps).path.IsChain fun p c =>
        ((run steps).document.children p).getLast? = some c) ∧
      ∀ name,
        ((run steps).closeElement? name = none →
          (run steps).step (.closeElement name) = run steps ∧
          ∀ i ∈ (run steps).opened, (run steps).document.name? i ≠ some (lowerAscii name)) ∧
        ∀ b', (run steps).closeElement? name = some b' →
          (run steps).step (.closeElement name) = b' ∧ b'.document = (run steps).document ∧
          ∃ inner i, (run steps).opened = inner ++ i :: b'.opened ∧
            (run steps).document.name? i = some (lowerAscii name) ∧
            ∀ j ∈ inner, (run steps).document.name? j ≠ some (lowerAscii name) := by
  have h := sound_run steps
  refine ⟨h.document.isPreorderTree, reverse_path h, isChain_path h, fun name => ⟨?_, ?_⟩⟩
  · intro hnone
    refine ⟨?_, closeElement?_eq_none_iff.mp hnone⟩
    rw [step, hnone, Option.getD_none]
  · intro b' hsome
    refine ⟨?_, (closeElement?_eq_some hsome).1, exists_of_closeElement?_eq_some hsome⟩
    rw [step, hsome, Option.getD_some]

end Builder

end Harvest.Markup
