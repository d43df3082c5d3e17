import Harvest.Proofs.Rule.Evaluation

/-!
What evaluations leave behind.

A value that rules yield has no empty list or map in it and no absent member, at any depth. The same
holds of every value that they set as a property, also where the evaluation ends in a fault.
-/

namespace Harvest.Rule

theorem mem_entries_set {bag : PropertyBag} {name : String} {v : Value} {e : String × Value}
    (h : e ∈ (bag.set name v).entries) : e ∈ bag.entries ∨ v.isNull = false ∧ e = (name, v) := by
  unfold PropertyBag.set at h
  split at h
  · exact .inl (List.mem_filter.mp h).1
  · next hpresent =>
    obtain rfl | he := mem_insertEntry h
    · exact .inr ⟨Bool.eq_false_iff.mpr hpresent, rfl⟩
    · exact .inl he

def setAll (bag : PropertyBag) (writes : List (String × Value)) : PropertyBag :=
  writes.foldl (fun bag w => bag.set w.1 w.2) bag

theorem setAll_concat (bag : PropertyBag) (writes : List (String × Value)) (name : String)
    (v : Value) : setAll bag (writes ++ [(name, v)]) = (setAll bag writes).set name v := by
  rw [setAll, List.foldl_append]
  rfl

theorem mem_entries_setAll {bag : PropertyBag} {writes : List (String × Value)}
    (h : ∀ w ∈ writes, w.2.Dense) {e : String × Value} (he : e ∈ (setAll bag writes).entries) :
    e ∈ bag.entries ∨ e.2.Solid := by
  induction writes generalizing bag with
  | nil => exact .inl he
  | cons w rest ih =>
      obtain ⟨hw, hrest⟩ := List.forall_mem_cons.mp h
      obtain he | hsolid := ih hrest he
      · obtain he | ⟨hpresent, rfl⟩ := mem_entries_set he
        · exact .inl he
        · exact .inr ⟨hpresent, hw⟩
      · exact .inr hsolid

/-- The properties that come of others when some are set to dense values. -/
def Written (bag later : PropertyBag) : Prop :=
  ∃ writes : List (String × Value), (∀ w ∈ writes, w.2.Dense) ∧ later = setAll bag writes

namespace Written

variable {bag later : PropertyBag}

theorem refl (bag : PropertyBag) : Written bag bag := ⟨[], by simp, rfl⟩

theorem set (h : Written bag later) (name : String) {v : Value} (hv : v.Dense) :
    Written bag (later.set name v) := by
  obtain ⟨writes, hdense, rfl⟩ := h
  refine ⟨writes ++ [(name, v)], ?_, (setAll_concat ..).symm⟩
  rw [List.forall_mem_append]
  exact ⟨hdense, by simpa using hv⟩

theorem mem_entries (h : Written bag later) {e : String × Value} (he : e ∈ later.entries) :
    e ∈ bag.entries ∨ e.2.Solid := by
  obtain ⟨writes, hdense, rfl⟩ := h
  exact mem_entries_setAll hdense he

end Written

/-- Any rules may set properties to dense values, and end in any fault. -/
theorem discipline_written (bag : PropertyBag) :
    Discipline (fun _ => True) (Written bag) fun _ => True where
  child _ _ _ _ := trivial
  set _ _ _ _ _ _ name _ _ _ _ hlater hv := hlater.set name hv
  blank _ _ _ _ _ _ := trivial

/-- What an evaluation comes to that began with these properties. -/
structure Tidy (bag : PropertyBag) (result : Except ParseFault Value × PropertyBag) : Prop where
  value : ∀ v, result.1 = .ok v → v.Dense
  /-- Whatever is set on the way is dense, whether the evaluation ends in a fault or not. -/
  written : Written bag result.2
  entries : ∀ e ∈ result.2.entries, e ∈ bag.entries ∨ e.2.Solid
  kept : SolidEntries bag.entries → SolidEntries result.2.entries

theorem Yields.tidy {bag : PropertyBag} {x : Evaluation Value}
    (h : Yields (Written bag) (fun _ => True) Value.Dense x) : Tidy bag (x bag) := by
  have hwritten : Written bag (x bag).2 := by
    rcases hx : x bag with ⟨fault | v, later⟩
    · exact (h.of_error (.refl bag) hx).2
    · exact (h.of_ok (.refl bag) hx).2
  have hentries : ∀ e ∈ (x bag).2.entries, e ∈ bag.entries ∨ e.2.Solid :=
    fun _ he => hwritten.mem_entries he
  exact
    { value := fun v hv => (h.of_ok (.refl bag) (Prod.ext hv rfl)).1
      written := hwritten
      entries := hentries
      kept := fun hbag e he => (hentries e he).elim (hbag e) id }

/-- Neither a rule nor a row of rules brings an absent member or an empty collection into a value or
into the properties. -/
theorem evaluations_tidy (base : Option Url) (context : Context) (bag : PropertyBag) :
    (∀ r, Tidy bag (evaluate base context r bag)) ∧
      ∀ rules, Tidy bag (evaluateAll base context rules bag) :=
  ⟨fun r => Yields.tidy ((good_of_allowed (discipline_written bag) r trivial).1 context),
    fun _ => Yields.tidy (yields_evaluateAll (discipline_written bag) fun _ _ => trivial)⟩

end Harvest.Rule
