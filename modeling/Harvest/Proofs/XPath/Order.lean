import Harvest.XPath.Value
import Mathlib.Data.List.Forall2
import Mathlib.Data.List.Sort
import Mathlib.Data.Prod.Lex

/-!
Document order on members, and lists put in document order.

`documentOrder` sorts and then drops repeated neighbours. Two facts about its result are all that is
used of it later: it is strictly increasing, and it has the members that it was given. Members that
are renamed without a change in their order are put in the same order.
-/

namespace Harvest.XPath

namespace Member

def Before (x y : Member) : Prop := Prod.Lex (· < ·) (· < ·) x.orderKey y.orderKey

theorem orderKey_injective : Function.Injective orderKey := by
  intro x y h
  cases x <;> cases y <;> simp_all [orderKey]

theorem before_iff {x y : Member} :
    x.Before y ↔ x.orderKey.1 < y.orderKey.1 ∨
      x.orderKey.1 = y.orderKey.1 ∧ x.orderKey.2 < y.orderKey.2 :=
  Prod.lex_def

theorem notAfter_iff {x y : Member} :
    x.notAfter y = true ↔ x.orderKey.1 < y.orderKey.1 ∨
      x.orderKey.1 = y.orderKey.1 ∧ x.orderKey.2 ≤ y.orderKey.2 := by
  simp [notAfter]

theorem notAfter_trans (x y z : Member) (hxy : x.notAfter y = true)
    (hyz : y.notAfter z = true) : x.notAfter z = true := by
  rw [notAfter_iff] at hxy hyz ⊢
  omega

theorem notAfter_total (x y : Member) : (x.notAfter y || y.notAfter x) = true := by
  rw [Bool.or_eq_true, notAfter_iff, notAfter_iff]
  omega

theorem notAfter_antisymm {x y : Member} (hxy : x.notAfter y = true)
    (hyx : y.notAfter x = true) : x = y := by
  rw [notAfter_iff] at hxy hyx
  apply orderKey_injective
  ext <;> omega

theorem before_of_notAfter {x y : Member} (h : x.notAfter y = true) (hne : x ≠ y) :
    x.Before y := by
  have hkey : x.orderKey ≠ y.orderKey := fun h => hne (orderKey_injective h)
  rw [Ne, Prod.ext_iff, not_and] at hkey
  rw [notAfter_iff] at h
  rw [before_iff]
  omega

end Member

open Member

theorem eraseRepsBy_loop {α : Type} (r : α → α → Bool) (x : α) (xs acc : List α) :
    List.eraseRepsBy.loop r x xs acc = acc.reverse ++ List.eraseRepsBy r (x :: xs) := by
  induction xs generalizing x acc with
  | nil => simp [List.eraseRepsBy, List.eraseRepsBy.loop]
  | cons y ys ih =>
      have hloop (acc : List α) : List.eraseRepsBy.loop r x (y :: ys) acc =
          match r x y with
          | true => List.eraseRepsBy.loop r x ys acc
          | false => List.eraseRepsBy.loop r y ys (x :: acc) := rfl
      have hcons : List.eraseRepsBy r (x :: y :: ys) =
          List.eraseRepsBy.loop r x (y :: ys) [] := rfl
      rw [hcons, hloop, hloop]
      cases r x y with
      | true => simp only [ih, List.reverse_nil, List.nil_append]
      | false => simp [ih]

theorem eraseReps_cons_cons (x y : Member) (ms : List Member) :
    (x :: y :: ms).eraseReps =
      if x = y then (y :: ms).eraseReps else x :: (y :: ms).eraseReps := by
  have hcons : (x :: y :: ms).eraseReps =
      match x == y with
      | true => List.eraseRepsBy.loop (· == ·) x ms []
      | false => List.eraseRepsBy.loop (· == ·) y ms [x] := rfl
  rw [hcons]
  by_cases h : x = y
  · subst h
    simp [eraseRepsBy_loop, List.eraseReps]
  · have hne : (x == y) = false := beq_eq_false_iff_ne.mpr h
    simp [hne, h, eraseRepsBy_loop, List.eraseReps]

theorem mem_eraseReps {m : Member} {ms : List Member} : m ∈ ms.eraseReps ↔ m ∈ ms := by
  induction ms with
  | nil => rfl
  | cons x ms ih =>
      cases ms with
      | nil => rfl
      | cons y ms =>
          rw [eraseReps_cons_cons]
          split
          · next h =>
            subst h
            rw [ih]
            simp
          · rw [List.mem_cons, ih, ← List.mem_cons]

theorem pairwise_before_eraseReps {ms : List Member}
    (h : ms.Pairwise fun x y => x.notAfter y = true) : ms.eraseReps.Pairwise Before := by
  induction ms with
  | nil => exact .nil
  | cons x ms ih =>
      obtain ⟨hx, hms⟩ := List.pairwise_cons.mp h
      cases ms with
      | nil => exact List.pairwise_singleton _ _
      | cons y ms =>
          rw [eraseReps_cons_cons]
          split
          · exact ih hms
          · next hne =>
            refine List.pairwise_cons.mpr ⟨?_, ih hms⟩
            -- The neighbour differs from `x`, and whatever follows is not before the neighbour.
            have hxy : x.Before y := before_of_notAfter (hx y List.mem_cons_self) hne
            intro z hz
            rcases List.mem_cons.mp (mem_eraseReps.mp hz) with rfl | hz
            · exact hxy
            · have hyz := (List.pairwise_cons.mp hms).1 z hz
              rw [notAfter_iff] at hyz
              rw [before_iff] at hxy ⊢
              omega

@[simp] theorem mem_documentOrder {m : Member} {ms : List Member} :
    m ∈ documentOrder ms ↔ m ∈ ms := by
  rw [documentOrder, mem_eraseReps, List.mem_mergeSort]

theorem pairwise_documentOrder (ms : List Member) : (documentOrder ms).Pairwise Before :=
  pairwise_before_eraseReps (List.pairwise_mergeSort notAfter_trans notAfter_total ms)

instance : Std.Irrefl Before where
  irrefl x h := by
    rw [before_iff] at h
    omega

instance : Std.Antisymm Before where
  antisymm x y hxy hyx := by
    rw [before_iff] at hxy hyx
    omega

/-- The document order of a list depends only on which members the list has. -/
theorem documentOrder_eq_of_mem_iff {ms ns : List Member} (h : ∀ m, m ∈ ms ↔ m ∈ ns) :
    documentOrder ms = documentOrder ns := by
  refine (pairwise_documentOrder ms).eq_of_mem_iff (pairwise_documentOrder ns) fun m => ?_
  rw [mem_documentOrder, mem_documentOrder, h]

section Related

/-! Members that are related one by one, by a relation that keeps their order, are put in document
order in the same way. -/

variable {M : Member → Member → Prop}
  (horder : ∀ x x' y y', M x x' → M y y' → x.notAfter y = x'.notAfter y')
include horder

theorem eq_iff_of_related {x x' y y' : Member} (hx : M x x') (hy : M y y') :
    x = y ↔ x' = y' := by
  have hiff (z w : Member) : z = w ↔ z.notAfter w = true ∧ w.notAfter z = true := by
    constructor
    · rintro rfl
      simp [notAfter_iff]
    · exact fun h => notAfter_antisymm h.1 h.2
  rw [hiff, hiff, horder x x' y y' hx hy, horder y y' x x' hy hx]

theorem forall₂_eraseReps {ms ns : List Member} (h : List.Forall₂ M ms ns) :
    List.Forall₂ M ms.eraseReps ns.eraseReps := by
  induction h with
  | nil => exact .nil
  | cons hx htail ih =>
      cases htail with
      | nil => exact .cons hx .nil
      | cons hy hrest =>
          rw [eraseReps_cons_cons, eraseReps_cons_cons]
          split
          · next heq =>
            rw [if_pos ((eq_iff_of_related horder hx hy).mp heq)]
            exact ih
          · next hne =>
            rw [if_neg (mt (eq_iff_of_related horder hx hy).mpr hne)]
            exact .cons hx ih

theorem forall₂_documentOrder {ms ns : List Member} (h : List.Forall₂ M ms ns) :
    List.Forall₂ M (documentOrder ms) (documentOrder ns) := by
  -- Both lists are projections of one list of pairs, which is sorted once.
  obtain ⟨hlength, hzip⟩ := List.forall₂_iff_zip.mp h
  have hpairs : ∀ p ∈ ms.zip ns, M p.1 p.2 := fun p hp => hzip hp
  have hms : ms = (ms.zip ns).map Prod.fst := (List.map_fst_zip hlength.le).symm
  have hns : ns = (ms.zip ns).map Prod.snd := (List.map_snd_zip hlength.ge).symm
  generalize ms.zip ns = ps at hpairs hms hns
  subst hms hns
  let le (p q : Member × Member) : Bool := p.1.notAfter q.1
  have hfst : (ps.mergeSort le).map Prod.fst = (ps.map Prod.fst).mergeSort notAfter :=
    List.map_mergeSort fun p _ q _ => rfl
  have hsnd : (ps.mergeSort le).map Prod.snd = (ps.map Prod.snd).mergeSort notAfter :=
    List.map_mergeSort fun p hp q hq => horder p.1 p.2 q.1 q.2 (hpairs p hp) (hpairs q hq)
  rw [documentOrder, documentOrder, ← hfst, ← hsnd]
  apply forall₂_eraseReps horder
  rw [List.forall₂_map_left_iff, List.forall₂_map_right_iff, List.forall₂_same]
  exact fun p hp => hpairs p (List.mem_mergeSort.mp hp)

end Related

end Harvest.XPath
