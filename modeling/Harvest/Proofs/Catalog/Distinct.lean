import Harvest.Catalog.ResultList

/-!
Lists of results in which every record stands once.

Two results are of the same record by their tokens if both have one, or else by their entries. That
is no equivalence: a result without a token may be of the same record as two results whose tokens
differ. So whatever is pushed is compared with every result that the list has, and what a list keeps
is said of each two of its results and not of classes of them.
-/

namespace Harvest.Catalog

@[simp] theorem Result.sameRecord_self (r : Result) : r.sameRecord r = true := by
  cases htoken : r.token <;> simp [sameRecord, htoken]

theorem Result.sameRecord_comm (a b : Result) : a.sameRecord b = b.sameRecord a := by
  have hsource : (a.source == b.source) = (b.source == a.source) := BEq.comm
  have hentry : decide (a.entry = b.entry) = decide (b.entry = a.entry) :=
    decide_eq_decide.mpr eq_comm
  unfold sameRecord
  rw [hsource, hentry]
  cases a.token <;> cases b.token <;> simp [BEq.comm]

namespace ResultList

variable {l l' other : ResultList} {r : Result} {rs : List Result}

def Distinct (l : ResultList) : Prop :=
  l.items.Pairwise fun a b => a.sameRecord b = false

/-- Lists that come from the empty one by pushing results and merging lists that come so too. -/
inductive Built : ResultList → Prop
  | empty : Built .empty
  | push {l : ResultList} (hl : Built l) (r : Result) : Built (l.push r)
  | merge {l other : ResultList} (hl : Built l) (hother : Built other) : Built (l.merge other)

theorem holds_iff : l.holds r = true ↔ ∃ item ∈ l.items, item.sameRecord r = true :=
  List.any_eq_true

theorem holds_of_mem (h : r ∈ l.items) : l.holds r = true :=
  holds_iff.mpr ⟨r, h, r.sameRecord_self⟩

/-- What a list holds, every longer list that begins like it holds. -/
theorem holds_of_prefix (h : l.items <+: l'.items) (hr : l.holds r = true) :
    l'.holds r = true := by
  obtain ⟨item, hitem, hsame⟩ := holds_iff.mp hr
  exact holds_iff.mpr ⟨item, h.subset hitem, hsame⟩

theorem offer_eq (l : ResultList) (r : Result) : l.offer r = (!l.holds r, l.push r) := by
  unfold push offer
  cases l.holds r <;> rfl

theorem push_of_holds (h : l.holds r = true) : l.push r = l := by
  rw [push, offer, if_pos h]

theorem items_push (h : l.holds r = false) : (l.push r).items = l.items ++ [r] := by
  rw [push, offer, h]
  rfl

/-- Of the results that are pushed some are appended, in order. -/
theorem items_foldl_push (l : ResultList) (rs : List Result) :
    ∃ added, added.Sublist rs ∧ (rs.foldl push l).items = l.items ++ added := by
  induction rs generalizing l with
  | nil => exact ⟨[], .slnil, (List.append_nil _).symm⟩
  | cons r rs ih =>
      obtain ⟨added, hadded, hitems⟩ := ih (l.push r)
      cases hr : l.holds r with
      | true => exact ⟨added, hadded.cons r, by rw [List.foldl_cons, hitems, push_of_holds hr]⟩
      | false =>
          refine ⟨r :: added, hadded.cons_cons r, ?_⟩
          rw [List.foldl_cons, hitems, items_push hr, List.append_assoc, List.singleton_append]

theorem prefix_foldl_push (l : ResultList) (rs : List Result) :
    l.items <+: (rs.foldl push l).items := by
  obtain ⟨added, -, hitems⟩ := items_foldl_push l rs
  exact ⟨added, hitems.symm⟩

theorem holds_push (l : ResultList) (r : Result) : (l.push r).holds r = true := by
  cases hr : l.holds r with
  | true => rw [push_of_holds hr, hr]
  | false => exact holds_of_mem (by simp [items_push hr])

/-- The list holds every result that was pushed, be it appended or not. -/
theorem holds_foldl_push (l : ResultList) (h : r ∈ rs) : (rs.foldl push l).holds r = true := by
  induction rs generalizing l with
  | nil => cases h
  | cons r' rs ih =>
      obtain rfl | h := List.mem_cons.mp h
      · exact holds_of_prefix (prefix_foldl_push _ rs) (holds_push l r)
      · exact ih (l.push r') h

/-- Nothing comes of pushing what the list holds. -/
theorem foldl_push_of_holds (h : ∀ r ∈ rs, l.holds r = true) : rs.foldl push l = l := by
  induction rs with
  | nil => rfl
  | cons r rs ih =>
      obtain ⟨hr, hrs⟩ := List.forall_mem_cons.mp h
      rw [List.foldl_cons, push_of_holds hr, ih hrs]

theorem merge_self (l : ResultList) : l.merge l = l :=
  foldl_push_of_holds fun _ => holds_of_mem

namespace Distinct

theorem push (h : l.Distinct) (r : Result) : (l.push r).Distinct := by
  cases hr : l.holds r with
  | true =>
      rw [push_of_holds hr]
      exact h
  | false =>
      have hnone : ∀ item ∈ l.items, item.sameRecord r = false :=
        fun item hitem => Bool.eq_false_iff.mpr (List.any_eq_false.mp hr item hitem)
      rw [Distinct, items_push hr, List.pairwise_append]
      exact ⟨h, List.pairwise_singleton _ r, by simpa using hnone⟩

theorem merge (h : l.Distinct) (other : ResultList) : (l.merge other).Distinct :=
  List.foldlRecOn other.items _ h fun _ h r _ => h.push r

/-- No two results at different places are of the same record. -/
theorem getElem (h : l.Distinct) {i j : Nat} (hi : i < l.items.length) (hj : j < l.items.length)
    (hij : i ≠ j) : l.items[i].sameRecord l.items[j] = false := by
  have hpairs := List.pairwise_iff_getElem.mp h
  obtain hlt | hlt := Nat.lt_or_gt_of_ne hij
  · exact hpairs i j hi hj hlt
  · rw [Result.sameRecord_comm]
    exact hpairs j i hj hi hlt

end Distinct

theorem Built.distinct (h : Built l) : l.Distinct := by
  induction h with
  | empty => exact .nil
  | push _ r ih => exact ih.push r
  | merge _ _ ih _ => exact ih.merge _

/-- What becomes of a list when a result is pushed: it is refused exactly if the list has a result
of the same record, and appended otherwise. -/
structure TakesIn (l : ResultList) (r : Result) : Prop where
  pushed : (l.offer r).2 = l.push r
  refused_iff : (l.offer r).1 = false ↔ ∃ item ∈ l.items, item.sameRecord r = true
  refused : (l.offer r).1 = false → l.push r = l
  appended : (l.offer r).1 = true → (l.push r).items = l.items ++ [r]
  kept : l.items <+: (l.push r).items
  represented : ∃ item ∈ (l.push r).items, item.sameRecord r = true

/-- What becomes of a list when another one is merged into it: some results of the other list are
appended, in their order. -/
structure TakesInAll (l other : ResultList) : Prop where
  kept : l.items <+: (l.merge other).items
  appended : ∃ added, added.Sublist other.items ∧ (l.merge other).items = l.items ++ added
  represented : ∀ r ∈ other.items, ∃ item ∈ (l.merge other).items, item.sameRecord r = true

theorem takesIn (l : ResultList) (r : Result) : TakesIn l r where
  pushed := rfl
  refused_iff := by rw [offer_eq, Bool.not_eq_false', holds_iff]
  refused h := push_of_holds (by simpa [offer_eq] using h)
  appended h := items_push (by simpa [offer_eq] using h)
  kept := prefix_foldl_push l [r]
  represented := holds_iff.mp (l.holds_push r)

theorem takesInAll (l other : ResultList) : TakesInAll l other where
  kept := prefix_foldl_push l other.items
  appended := items_foldl_push l other.items
  represented _ hr := holds_iff.mp (holds_foldl_push l hr)

/-- A list that is built by pushing and merging has every record once, and goes on to grow at its
end only, by what it does not hold yet. -/
theorem built_holds_records_once (l : ResultList) (h : Built l) :
    (∀ (i j : Nat) (hi : i < l.items.length) (hj : j < l.items.length), i ≠ j →
        l.items[i].sameRecord l.items[j] = false) ∧
      (∀ r, TakesIn l r) ∧ (∀ other, TakesInAll l other) ∧ l.merge l = l :=
  ⟨fun _ _ hi hj => h.distinct.getElem hi hj, takesIn l, takesInAll l, l.merge_self⟩

def edition (token : Option String) : Result :=
  ⟨"shelf", { Entry.empty with title := some "Flora" }, token, false⟩

/-- Two editions with different tokens; one without a token is of the same record as each of
them. -/
def editions : ResultList :=
  ((empty.push (edition (some "first"))).merge (empty.push (edition (some "second")))).push
    (edition none)

/-- Two editions with a token each, put together, and one without a token, which is the first. -/
theorem built_holds_records_once_editions :
    Built editions ∧ editions.size = 2 ∧
      (∀ (i j : Nat) (hi : i < editions.items.length) (hj : j < editions.items.length), i ≠ j →
        editions.items[i].sameRecord editions.items[j] = false) ∧
      (∀ r, TakesIn editions r) ∧ (∀ other, TakesInAll editions other) ∧
      editions.merge editions = editions := by
  have hbuilt : Built editions := .push (.merge (.push .empty _) (.push .empty _)) _
  exact ⟨hbuilt, by decide, built_holds_records_once editions hbuilt⟩

end ResultList

end Harvest.Catalog
