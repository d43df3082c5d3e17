import Harvest.Catalog.Query

/-!
What a query says of a record, and that its conjunctions say the same.

A truth assignment fixes which terms hold. The expansion carries a polarity:
under a negation it stands for the negated query, so that conjunctions and
disjunctions change places there. Each expansion is read as a disjunction of
lists of literals; the statements below compare that reading with the query, up
to the polarity.
-/

namespace Harvest

namespace Query

variable (v : String → Bool)

mutual

/-- Whether the query holds where the terms with `v t` hold and no others. -/
def holds (q : Query) : Bool :=
  match q with
  | .term t => v t
  | .and operands => allHold operands
  | .or operands => anyHolds operands
  | .not operand => !operand.holds

def allHold (qs : List Query) : Bool :=
  match qs with
  | [] => true
  | q :: qs => q.holds && allHold qs

def anyHolds (qs : List Query) : Bool :=
  match qs with
  | [] => false
  | q :: qs => q.holds || anyHolds qs

end

def IsLiteral : Query → Prop
  | .term _ | .not (.term _) => True
  | _ => False

/-- A single literal, or the conjunction of a list of literals. -/
def IsConjunction (q : Query) : Prop :=
  q.IsLiteral ∨ ∃ literals, q = .and literals ∧ ∀ l ∈ literals, l.IsLiteral

def anyOf (lists : List (List Query)) : Bool := lists.any (allHold v)

theorem allHold_append (as bs : List Query) :
    allHold v (as ++ bs) = (allHold v as && allHold v bs) := by
  induction as with
  | nil => simp [allHold]
  | cons a as ih => rw [List.cons_append, allHold, allHold, ih, Bool.and_assoc]

@[simp] theorem anyOf_nil : anyOf v [] = false := rfl

@[simp] theorem anyOf_append (as bs : List (List Query)) :
    anyOf v (as ++ bs) = (anyOf v as || anyOf v bs) :=
  List.any_append ..

theorem anyOf_map_append (a : List Query) (bs : List (List Query)) :
    anyOf v (bs.map fun b => a ++ b) = (allHold v a && anyOf v bs) := by
  induction bs with
  | nil => simp
  | cons b bs ih =>
      have h : anyOf v ((b :: bs).map fun b => a ++ b) =
          (allHold v (a ++ b) || anyOf v (bs.map fun b => a ++ b)) := rfl
      rw [h, ih, allHold_append, ← Bool.and_or_distrib_left]
      rfl

/-- Joining every list of the one with every list of the other is conjunction. -/
theorem anyOf_products (as bs : List (List Query)) :
    anyOf v (products as bs) = (anyOf v as && anyOf v bs) := by
  induction as with
  | nil => simp [products]
  | cons a as ih =>
      have h : products (a :: as) bs = bs.map (fun b => a ++ b) ++ products as bs := rfl
      rw [h, anyOf_append, anyOf_map_append, ih, ← Bool.and_or_distrib_right]
      rfl

mutual

/-- The expansion holds exactly when the query, or its negation, does. -/
theorem anyOf_expand (q : Query) (negated : Bool) :
    anyOf v (q.expand negated) = (q.holds v != negated) := by
  match q, negated with
  | .term t, false => simp [expand, anyOf, allHold, holds]
  | .term t, true => simp [expand, anyOf, allHold, holds]
  | .not operand, negated =>
      rw [expand, anyOf_expand operand (!negated), holds]
      cases operand.holds v <;> cases negated <;> rfl
  | .or operands, false => rw [expand, anyOf_expandAny operands false, holds]; simp
  | .and operands, true => rw [expand, anyOf_expandAny operands true, holds]; simp
  | .and operands, false =>
      rw [expand, anyOf_expandAll operands false, holds]
      simp [anyOf, allHold]
  | .or operands, true =>
      rw [expand, anyOf_expandAll operands true, holds]
      simp [anyOf, allHold]

/-- One after the other, the expansions hold when one operand holds; of negated
operands, when they do not all hold. -/
theorem anyOf_expandAny (qs : List Query) (negated : Bool) :
    anyOf v (expandAny negated qs) =
      if negated then !allHold v qs else anyHolds v qs := by
  match qs with
  | [] => cases negated <;> rfl
  | q :: qs =>
      rw [expandAny, anyOf_append, anyOf_expand q negated, anyOf_expandAny qs negated,
        allHold, anyHolds]
      cases negated <;> simp

/-- Joined, the expansions hold when what went before does and every operand
holds; of negated operands, when none of them holds. -/
theorem anyOf_expandAll (qs : List Query) (negated : Bool) (sofar : List (List Query)) :
    anyOf v (expandAll negated sofar qs) =
      (anyOf v sofar && if negated then !anyHolds v qs else allHold v qs) := by
  match qs with
  | [] => cases negated <;> simp [expandAll, allHold, anyHolds]
  | q :: qs =>
      rw [expandAll, anyOf_expandAll qs negated, anyOf_products, anyOf_expand q negated,
        allHold, anyHolds]
      cases negated <;> simp [Bool.and_assoc]

end

def OnlyLiterals (lists : List (List Query)) : Prop :=
  ∀ literals ∈ lists, ∀ l ∈ literals, l.IsLiteral

theorem OnlyLiterals.append {as bs : List (List Query)} (ha : OnlyLiterals as)
    (hb : OnlyLiterals bs) : OnlyLiterals (as ++ bs) := by
  intro literals h
  rcases List.mem_append.mp h with h | h
  · exact ha literals h
  · exact hb literals h

theorem OnlyLiterals.products {as bs : List (List Query)} (ha : OnlyLiterals as)
    (hb : OnlyLiterals bs) : OnlyLiterals (products as bs) := by
  intro literals h l hl
  obtain ⟨a, ha', h⟩ := List.mem_flatMap.mp h
  obtain ⟨b, hb', rfl⟩ := List.mem_map.mp h
  rcases List.mem_append.mp hl with hl | hl
  · exact ha a ha' l hl
  · exact hb b hb' l hl

mutual

theorem onlyLiterals_expand (q : Query) (negated : Bool) :
    OnlyLiterals (q.expand negated) := by
  match q, negated with
  | .term t, false => simp [expand, OnlyLiterals, IsLiteral]
  | .term t, true => simp [expand, OnlyLiterals, IsLiteral]
  | .not operand, negated => rw [expand]; exact onlyLiterals_expand operand (!negated)
  | .or operands, false => rw [expand]; exact onlyLiterals_expandAny operands false
  | .and operands, true => rw [expand]; exact onlyLiterals_expandAny operands true
  | .and operands, false =>
      rw [expand]
      exact onlyLiterals_expandAll operands false [[]] (by simp [OnlyLiterals])
  | .or operands, true =>
      rw [expand]
      exact onlyLiterals_expandAll operands true [[]] (by simp [OnlyLiterals])

theorem onlyLiterals_expandAny (qs : List Query) (negated : Bool) :
    OnlyLiterals (expandAny negated qs) := by
  match qs with
  | [] => simp [expandAny, OnlyLiterals]
  | q :: qs =>
      rw [expandAny]
      exact (onlyLiterals_expand q negated).append (onlyLiterals_expandAny qs negated)

theorem onlyLiterals_expandAll (qs : List Query) (negated : Bool)
    (sofar : List (List Query)) (h : OnlyLiterals sofar) :
    OnlyLiterals (expandAll negated sofar qs) := by
  match qs with
  | [] => rw [expandAll]; exact h
  | q :: qs =>
      rw [expandAll]
      exact onlyLiterals_expandAll qs negated _ (h.products (onlyLiterals_expand q negated))

end

theorem holds_ofLiterals (literals : List Query) :
    (ofLiterals literals).holds v = allHold v literals := by
  unfold ofLiterals
  split
  · simp [allHold]
  · rw [holds]

theorem isConjunction_ofLiterals {literals : List Query}
    (h : ∀ l ∈ literals, l.IsLiteral) : (ofLiterals literals).IsConjunction := by
  unfold ofLiterals
  split
  · next l => exact Or.inl (h l (by simp))
  · exact Or.inr ⟨literals, rfl, h⟩

/-- A query holds exactly when one of its conjunctions does, whatever terms
hold; and each of these is a literal or a conjunction of literals. -/
theorem conjunctions_normalForm (q : Query) :
    (∀ v, q.holds v = true ↔ ∃ c ∈ q.conjunctions, c.holds v = true) ∧
      ∀ c ∈ q.conjunctions, c.IsConjunction := by
  constructor
  · intro v
    calc
      q.holds v = true ↔ anyOf v (q.expand false) = true := by
        rw [anyOf_expand v q false, Bool.bne_false]
      _ ↔ ∃ literals ∈ q.expand false, (ofLiterals literals).holds v = true := by
        simp [anyOf, holds_ofLiterals]
      _ ↔ ∃ c ∈ q.conjunctions, c.holds v = true := by
        rw [conjunctions]
        constructor
        · rintro ⟨literals, hl, h⟩
          exact ⟨_, List.mem_map_of_mem hl, h⟩
        · rintro ⟨c, hc, h⟩
          obtain ⟨literals, hl, rfl⟩ := List.mem_map.mp hc
          exact ⟨literals, hl, h⟩
  · intro c hc
    obtain ⟨literals, hl, rfl⟩ := List.mem_map.mp hc
    exact isConjunction_ofLiterals (onlyLiterals_expand q false literals hl)

end Query

end Harvest
