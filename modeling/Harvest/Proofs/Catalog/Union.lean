import Harvest.Proofs.Catalog.Distinct

/-!
How many results a union has.

Merging appends those results of the other list that the list itself does not hold; as the other
list has every record once, what is appended on the way refuses nothing. So two lists, merged in the
two orders, have equally many results exactly if each holds as many results of the other one as the
other one holds of it. They do so where no result of either list is of the same record as two of the
other; as being of the same record is no equivalence, this is a condition.
-/

namespace Harvest.Catalog

/-- Two results of the record of a third one are of one record if all three have tokens or none of
them has. -/
theorem Result.sameRecord_of_isSome_eq {x y r : Result} (hx : x.token.isSome = r.token.isSome)
    (hy : y.token.isSome = r.token.isSome) (hxr : x.sameRecord r = true)
    (hyr : y.sameRecord r = true) : x.sameRecord y = true := by
  cases htx : x.token <;> cases hty : y.token <;> cases htr : r.token <;>
    simp_all [Result.sameRecord]

/-- The tokens and the entries of a source tell its records apart in the same way. -/
def Result.TokensTellEntries (x y : Result) : Prop :=
  x.source = y.source → x.token.isSome = true → y.token.isSome = true →
    (x.token = y.token ↔ x.entry = y.entry)

theorem Result.sameRecord_of_tokensTellEntries {x y r : Result} (hxr : x.TokensTellEntries r)
    (hyr : y.TokensTellEntries r) (hxy : x.TokensTellEntries y) (hx : x.sameRecord r = true)
    (hy : y.sameRecord r = true) : x.sameRecord y = true := by
  unfold Result.TokensTellEntries at hxr hyr hxy
  cases htx : x.token <;> cases hty : y.token <;> cases htr : r.token <;>
    simp_all [Result.sameRecord]

namespace ResultList

variable {l other : ResultList} {r : Result} {rs : List Result}

theorem holds_push_eq (hr : l.holds r = false) (r' : Result) :
    (l.push r).holds r' = (l.holds r' || r.sameRecord r') := by
  simp [holds, items_push hr]

/-- What is pushed is refused by the list itself or not at all, if it has every record once. -/
theorem items_foldl_push_of_pairwise (l : ResultList)
    (h : rs.Pairwise fun a b => a.sameRecord b = false) :
    (rs.foldl push l).items = l.items ++ rs.filter fun r => !l.holds r := by
  induction rs generalizing l with
  | nil => exact (List.append_nil _).symm
  | cons r rs ih =>
      obtain ⟨hr, hrs⟩ := List.pairwise_cons.mp h
      rw [List.foldl_cons, ih (l.push r) hrs]
      cases hheld : l.holds r with
      | true => rw [push_of_holds hheld, List.filter_cons_of_neg (by simp [hheld])]
      | false =>
          have hsame : ∀ r' ∈ rs, (!(l.push r).holds r') = !l.holds r' := fun r' hr' => by
            rw [holds_push_eq hheld, hr r' hr', Bool.or_false]
          rw [items_push hheld, List.filter_congr hsame,
            List.filter_cons_of_pos (by simp [hheld]), List.append_assoc, List.singleton_append]

theorem items_merge (l : ResultList) (h : other.Distinct) :
    (l.merge other).items = l.items ++ other.items.filter fun r => !l.holds r :=
  items_foldl_push_of_pairwise l h

def shared (l other : ResultList) : Nat := l.items.countP other.holds

theorem size_merge (l : ResultList) (h : other.Distinct) :
    (l.merge other).size + other.shared l = l.size + other.size := by
  have hsplit := List.length_eq_countP_add_countP l.holds (l := other.items)
  have hkept : (other.items.filter fun r => !l.holds r).length =
      other.items.countP fun r => decide ¬l.holds r = true := by
    rw [← List.countP_eq_length_filter]
    exact List.countP_congr fun r _ => by simp
  rw [size, size, size, shared, items_merge l h, List.length_append, hkept]
  omega

theorem size_merge_eq_iff (hl : l.Distinct) (hother : other.Distinct) :
    (l.merge other).size = (other.merge l).size ↔ l.shared other = other.shared l := by
  have hforth := size_merge l hother
  have hback := size_merge other hl
  omega

/-- No result of the other list is of the same record as two results of this one. -/
def MeetsOnce (l other : ResultList) : Prop :=
  ∀ r ∈ other.items, l.items.countP (·.sameRecord r) ≤ 1

theorem countP_or_le (p q : Result → Bool) (rs : List Result) :
    rs.countP (fun r => p r || q r) ≤ rs.countP p + rs.countP q := by
  induction rs with
  | nil => exact Nat.le_refl 0
  | cons r rs ih =>
      simp only [List.countP_cons]
      cases p r <;> cases q r <;> simp <;> omega

/-- Each of these results makes one result of the list at most a shared one. -/
theorem countP_any_le (h : ∀ r ∈ rs, l.items.countP (·.sameRecord r) ≤ 1) :
    l.items.countP (fun x => rs.any x.sameRecord) ≤ rs.countP l.holds := by
  induction rs with
  | nil => simp
  | cons r rs ih =>
      obtain ⟨hr, hrs⟩ := List.forall_mem_cons.mp h
      have hone : l.items.countP (·.sameRecord r) ≤ if l.holds r = true then 1 else 0 := by
        split
        · exact hr
        · next hnone =>
          rw [Nat.le_zero, List.countP_eq_zero]
          exact fun x hx hsame => hnone (holds_iff.mpr ⟨x, hx, hsame⟩)
      calc
        l.items.countP (fun x => (r :: rs).any x.sameRecord) ≤
            l.items.countP (·.sameRecord r) + l.items.countP fun x => rs.any x.sameRecord :=
          countP_or_le _ _ l.items
        _ ≤ (if l.holds r = true then 1 else 0) + rs.countP l.holds := Nat.add_le_add hone (ih hrs)
        _ = (r :: rs).countP l.holds := by rw [List.countP_cons, Nat.add_comm]

theorem MeetsOnce.shared_le (h : l.MeetsOnce other) : l.shared other ≤ other.shared l := by
  have hheld : l.items.countP other.holds = l.items.countP fun x => other.items.any x.sameRecord := by
    refine List.countP_congr fun x _ => ?_
    simp only [holds, fun r : Result => Result.sameRecord_comm r x]
  exact Nat.le_trans (Nat.le_of_eq hheld) (countP_any_le h)

theorem MeetsOnce.size_merge_eq (hl : l.Distinct) (hother : other.Distinct)
    (hforth : l.MeetsOnce other) (hback : other.MeetsOnce l) :
    (l.merge other).size = (other.merge l).size :=
  (size_merge_eq_iff hl hother).mpr (Nat.le_antisymm hforth.shared_le hback.shared_le)

/-- A list that has every record once has two results of the record of a third one only if being of
the same record does not carry over. -/
theorem Distinct.countP_le_one (h : l.Distinct)
    (htrans : ∀ x ∈ l.items, ∀ y ∈ l.items, x.sameRecord r = true → y.sameRecord r = true →
      x.sameRecord y = true) : l.items.countP (·.sameRecord r) ≤ 1 := by
  have hpairs := h.filter (·.sameRecord r)
  have hmem : ∀ x ∈ l.items.filter (·.sameRecord r), x ∈ l.items ∧ x.sameRecord r = true :=
    fun x hx => List.mem_filter.mp hx
  rw [List.countP_eq_length_filter]
  generalize l.items.filter (·.sameRecord r) = found at hpairs hmem
  cases hpairs with
  | nil => exact Nat.zero_le 1
  | @cons x rest hx _ =>
      cases rest with
      | nil => exact Nat.le_refl 1
      | cons y rest =>
          obtain ⟨hxmem, hxr⟩ := hmem x List.mem_cons_self
          obtain ⟨hymem, hyr⟩ := hmem y (List.mem_cons_of_mem x List.mem_cons_self)
          have hxy := hx y List.mem_cons_self
          rw [htrans x hxmem y hymem hxr hyr] at hxy
          cases hxy

/-- Lists meet once where the results of both have tokens, or those of neither. -/
theorem Distinct.meetsOnce_of_isSome_eq (h : l.Distinct)
    (htokens : ∀ x ∈ l.items, ∀ r ∈ other.items, x.token.isSome = r.token.isSome) :
    l.MeetsOnce other := fun r hr =>
  h.countP_le_one fun x hx y hy =>
    Result.sameRecord_of_isSome_eq (htokens x hx r hr) (htokens y hy r hr)

/-- Lists meet once where tokens and entries tell records apart in the same way. -/
theorem Distinct.meetsOnce_of_tokensTellEntries (h : l.Distinct)
    (htokens : ∀ x ∈ l.items ++ other.items, ∀ y ∈ l.items ++ other.items, x.TokensTellEntries y) :
    l.MeetsOnce other := fun r hr =>
  h.countP_le_one fun x hx y hy =>
    have hx := List.mem_append_left other.items hx
    have hy := List.mem_append_left other.items hy
    have hr := List.mem_append_right l.items hr
    Result.sameRecord_of_tokensTellEntries (htokens x hx r hr) (htokens y hy r hr) (htokens x hx y hy)

/-- Of two lists that are built by pushing and merging, the first one takes in what it does not hold
of the second one. Merged in the other order they have equally many results exactly if they share
equally many; and so they have if no result of either is of the same record as two of the other,
which is so if all results have tokens or none, or if the tokens tell the entries. -/
theorem size_merge_comm_iff (a b : ResultList) (ha : Built a) (hb : Built b) :
    (a.merge b).items = a.items ++ b.items.filter (fun r => !a.holds r) ∧
      (a.merge b).size + b.shared a = a.size + b.size ∧
      ((a.merge b).size = (b.merge a).size ↔ a.shared b = b.shared a) ∧
      (a.MeetsOnce b → b.MeetsOnce a → (a.merge b).size = (b.merge a).size) ∧
      ((∀ x ∈ a.items, ∀ y ∈ b.items, x.token.isSome = y.token.isSome) →
        (a.merge b).size = (b.merge a).size) ∧
      ((∀ x ∈ a.items ++ b.items, ∀ y ∈ a.items ++ b.items, x.TokensTellEntries y) →
        (a.merge b).size = (b.merge a).size) := by
  have hmeet := MeetsOnce.size_merge_eq ha.distinct hb.distinct
  refine ⟨items_merge a hb.distinct, size_merge a hb.distinct,
    size_merge_eq_iff ha.distinct hb.distinct, hmeet, fun htokens => ?_, fun htokens => ?_⟩
  · exact hmeet (ha.distinct.meetsOnce_of_isSome_eq htokens)
      (hb.distinct.meetsOnce_of_isSome_eq fun y hy x hx => (htokens x hx y hy).symm)
  · have hswap : ∀ x ∈ b.items ++ a.items, x ∈ a.items ++ b.items :=
      fun x hx => List.mem_append.mpr (List.mem_append.mp hx).symm
    exact hmeet (ha.distinct.meetsOnce_of_tokensTellEntries htokens)
      (hb.distinct.meetsOnce_of_tokensTellEntries fun x hx y hy =>
        htokens x (hswap x hx) y (hswap y hy))

/-- One list has an edition with its token and one of another source, the other list has the first
of them under an own token and the second one without its token. -/
theorem size_merge_comm_iff_catalogues :
    let a := (empty.push (edition (some "first"))).push ⟨"attic", .empty, some "box", false⟩
    let b := (empty.push (edition (some "second"))).push ⟨"attic", .empty, none, false⟩
    Built a ∧ Built b ∧ a.MeetsOnce b ∧ b.MeetsOnce a ∧ (a.merge b).size = 3 ∧
      (a.merge b).size = (b.merge a).size := by
  intro a b
  have ha : Built a := .push (.push .empty _) _
  have hb : Built b := .push (.push .empty _) _
  have hforth : a.MeetsOnce b := by
    unfold MeetsOnce
    decide
  have hback : b.MeetsOnce a := by
    unfold MeetsOnce
    decide
  exact ⟨ha, hb, hforth, hback, by decide,
    (size_merge_comm_iff a b ha hb).2.2.2.1 hforth hback⟩

/-- Two editions with different tokens are both taken in before the one without a token, and one of
them is lost behind it. -/
theorem size_merge_depends_on_order :
    let a := (empty.push (edition (some "first"))).push (edition (some "second"))
    let b := empty.push (edition none)
    Built a ∧ Built b ∧ (a.merge b).size = 2 ∧ (b.merge a).size = 1 :=
  ⟨.push (.push .empty _) _, .push .empty _, by decide, by decide⟩

end ResultList

end Harvest.Catalog
