import Harvest.Proofs.XPath.Grammar
import Harvest.Proofs.XPath.ParserRules

/-!
Where derivable parts begin and end.

The parser decides by one token whether to go on. `reach` numbers the tokens by
the loosest construct that they continue, and `StopsAt n` says that what follows
continues nothing up to `n`; a sign that closes something continues nothing.
`BeginsWith` says which tokens a derivable part can begin with, which is how the
parser knows one part from another.
-/

namespace Harvest.XPath.Grammar

/-- The construct that the token continues when it follows it: predicates, steps,
a slash standing alone, unions, the levels of operators from the tightest; beyond
these, none. -/
def reach : Token → Nat
  | .openBracket => 0
  | .slash | .doubleSlash => 1
  | .dot | .dotDot | .at | .star | .name _ | .nodeType _ | .axisName _ => 2
  | .pipe => 3
  | .times | .div | .mod => 4
  | .plus | .minus => 5
  | .lt | .le | .gt | .ge => 6
  | .eq | .ne => 7
  | .and => 8
  | .or => 9
  | _ => 10

def StopsAt (n : Nat) (rest : List Placed) : Prop :=
  ∀ t ∈ (tokens rest).head?, n < reach t

@[simp] theorem stopsAt_nil (n : Nat) : StopsAt n [] := by
  simp [StopsAt]

@[simp] theorem stopsAt_cons {n o : Nat} {t : Token} {rest : List Placed} :
    StopsAt n (⟨t, o⟩ :: rest) ↔ n < reach t := by
  simp [StopsAt]

theorem StopsAt.mono {m n : Nat} {rest : List Placed} (h : StopsAt n rest) (hmn : m ≤ n) :
    StopsAt m rest :=
  fun t ht => Nat.lt_of_le_of_lt hmn (h t ht)

theorem StopsAt.head_ne {n : Nat} {rest : List Placed} (h : StopsAt n rest) {t : Token}
    (ht : reach t ≤ n) : (tokens rest).head? ≠ some t :=
  fun hhead => absurd (h t hhead) (Nat.not_lt.mpr ht)

theorem StopsAt.beginsStep {rest : List Placed} (h : StopsAt 2 rest) :
    beginsStep rest = false := by
  cases rest with
  | nil => rfl
  | cons t rest =>
      obtain ⟨t, o⟩ := t
      have ht := stopsAt_cons.mp h
      cases t with
      | dot | dotDot | «at» | star | name | nodeType | axisName =>
          exact absurd ht (by simp [reach])
      | _ => rfl

theorem reach_operator {l : Level} {t : Token} {op : BinaryOp} (h : Operator l t op) :
    reach t = 4 + l.depth := by
  cases h <;> rfl

theorem depth_precedes {l m : Level} (h : Precedes l m) : l.depth = m.depth + 1 := by
  cases h <;> rfl

theorem next?_of_precedes {l m : Level} (h : Precedes l m) : l.next? = some m :=
  next?_eq_some_iff.mpr h

/-- No operator of the level follows. -/
theorem reads_parseOperators_nil {l : Level} {rest : List Placed}
    (h : StopsAt (4 + l.depth) rest) (e : Expr) : Reads (parseOperators l e rest) e rest := by
  refine reads_parseOperators.mpr (.inr ⟨?_, rfl, rfl⟩)
  intro t ht
  cases hop : l.operator? t with
  | none => rfl
  | some op =>
      have hreach := reach_operator (operator?_eq_some_iff.mp hop)
      have := h t ht
      omega

theorem reads_parseUnion_nil {rest : List Placed} (h : StopsAt 3 rest) (e : Expr) :
    Reads (parseUnion e rest) e rest :=
  reads_parseUnion.mpr (.inr ⟨h.head_ne (Nat.le_refl 3), rfl, rfl⟩)

theorem reads_parsePredicates_nil {rest : List Placed} (h : StopsAt 0 rest) :
    Reads (parsePredicates rest) [] rest :=
  reads_parsePredicates.mpr (.inr ⟨h.head_ne (Nat.le_refl 0), rfl, rfl⟩)

theorem reads_parseSteps_nil {rest : List Placed} (h : StopsAt 1 rest) :
    Reads (parseSteps rest) [] rest :=
  reads_parseSteps.mpr (.inr (.inr
    ⟨h.head_ne (Nat.le_refl 1), h.head_ne (Nat.le_refl 1), rfl, rfl⟩))

/-! What derivable parts begin with. -/

def BeginsWith (p : Token → Bool) (us : List Token) : Prop :=
  ∃ t vs, us = t :: vs ∧ p t = true

theorem BeginsWith.append {p : Token → Bool} {us : List Token} (h : BeginsWith p us)
    (vs : List Token) : BeginsWith p (us ++ vs) := by
  obtain ⟨t, ws, rfl, ht⟩ := h
  exact ⟨t, ws ++ vs, rfl, ht⟩

theorem BeginsWith.imp {p q : Token → Bool} {us : List Token} (h : BeginsWith p us)
    (hpq : ∀ t, p t = true → q t = true) : BeginsWith q us := by
  obtain ⟨t, vs, rfl, ht⟩ := h
  exact ⟨t, vs, rfl, hpq t ht⟩

def beginsTest : Token → Bool
  | .star | .name _ | .nodeType _ => true
  | _ => false

def beginsFullStep : Token → Bool
  | .at | .axisName _ => true
  | t => beginsTest t

def beginsPath : Token → Bool
  | .slash | .doubleSlash => true
  | t => t.beginsPrimary || t.beginsStep

def beginsExpr : Token → Bool
  | .minus => true
  | t => beginsPath t

theorem Test.begins {us : List Token} {test : NodeTest} (h : Test us test) :
    BeginsWith beginsTest us := by
  cases h <;> exact ⟨_, _, rfl, rfl⟩

theorem AxisPart.begins_append {us vs : List Token} {axis : Axis} {test : NodeTest}
    (ha : AxisPart us axis) (ht : Test vs test) : BeginsWith beginsFullStep (us ++ vs) := by
  cases ha with
  | missing =>
      refine ht.begins.imp ?_
      intro t h
      cases t <;> first | rfl | cases h
  | sign | named => exact ⟨_, _, rfl, rfl⟩

theorem StepPart.begins {us : List Token} {s : Step} (h : StepPart us s) :
    BeginsWith Token.beginsStep us := by
  cases h with
  | dot | dotDot => exact ⟨_, _, rfl, rfl⟩
  | full ha ht hp =>
      refine ((ha.begins_append ht).append _).imp ?_
      intro t h
      cases t <;> first | rfl | cases h

theorem Relative.begins {us : List Token} {ss : List Step} (h : Relative us ss) :
    BeginsWith Token.beginsStep us := by
  cases h with
  | last h => exact h.begins
  | cons h hs => exact h.begins.append _

theorem Primary.begins {us : List Token} {e : Expr} (h : Primary us e) :
    BeginsWith Token.beginsPrimary us := by
  cases h <;> exact ⟨_, _, rfl, rfl⟩

theorem Filter.begins {us : List Token} {e : Expr} {ps : List Expr} (h : Filter us e ps) :
    BeginsWith Token.beginsPrimary us := by
  cases h with
  | mk h hp => exact h.begins.append _

theorem Location.begins {us : List Token} {e : Expr} (h : Location us e) :
    BeginsWith (fun t => beginsPath t && !t.beginsPrimary) us := by
  cases h with
  | root | absolute | anywhere => exact ⟨_, _, rfl, rfl⟩
  | relative h =>
      refine h.begins.imp ?_
      intro t h
      cases t <;> first | rfl | cases h

theorem Path.begins {us : List Token} {e : Expr} (h : Path us e) : BeginsWith beginsPath us := by
  have hprimary : ∀ t : Token, t.beginsPrimary = true → beginsPath t = true := by
    intro t h
    cases t <;> first | rfl | cases h
  cases h with
  | location h => exact h.begins.imp fun t ht => (Bool.and_eq_true_iff.mp ht).1
  | primary h | narrowed h => exact h.begins.imp hprimary
  | continued h hs => exact (h.begins.imp hprimary).append _

theorem Union.begins {us : List Token} {e : Expr} (h : Union us e) : BeginsWith beginsPath us := by
  match h with
  | .path h => exact h.begins
  | .union ha hb => exact (Union.begins ha).append _
  termination_by structural h

theorem Unary.begins {us : List Token} {e : Expr} (h : Unary us e) : BeginsWith beginsExpr us := by
  match h with
  | .union h =>
      refine h.begins.imp ?_
      intro t h
      cases t <;> first | rfl | cases h
  | .minus h => exact ⟨_, _, rfl, rfl⟩

mutual

theorem OnLevel.begins {l : Level} {us : List Token} {e : Expr} (h : OnLevel l us e) :
    BeginsWith beginsExpr us := by
  match h with
  | .operand h => exact Operand.begins h
  | .binary ha ht hb => exact (OnLevel.begins ha).append _
  termination_by structural h

theorem Operand.begins {l : Level} {us : List Token} {e : Expr} (h : Operand l us e) :
    BeginsWith beginsExpr us := by
  match h with
  | .tighter hl h => exact OnLevel.begins h
  | .unary h => exact h.begins
  termination_by structural h

end

theorem ArgumentList.begins {us : List Token} {es : List Expr} (h : ArgumentList us es) :
    BeginsWith beginsExpr us := by
  cases h with
  | last h => exact h.begins
  | cons h hs => exact h.begins.append _

/-! Taking placed tokens apart as their tokens are. -/

theorem tokens_eq_nil {ps : List Placed} (h : tokens ps = []) : ps = [] :=
  List.map_eq_nil_iff.mp h

theorem tokens_eq_cons {ps : List Placed} {t : Token} {us : List Token}
    (h : tokens ps = t :: us) : ∃ o qs, ps = ⟨t, o⟩ :: qs ∧ tokens qs = us := by
  obtain ⟨⟨t', o⟩, qs, rfl, rfl, hqs⟩ := List.map_eq_cons_iff.mp h
  exact ⟨o, qs, rfl, hqs⟩

theorem tokens_eq_append {ps : List Placed} {us vs : List Token}
    (h : tokens ps = us ++ vs) : ∃ qs rs, ps = qs ++ rs ∧ tokens qs = us ∧ tokens rs = vs :=
  List.map_eq_append_iff.mp h

theorem tokens_eq_singleton {ps : List Placed} {t : Token} (h : tokens ps = [t]) :
    ∃ o, ps = [⟨t, o⟩] := by
  obtain ⟨o, qs, rfl, hqs⟩ := tokens_eq_cons h
  rw [tokens_eq_nil hqs]
  exact ⟨o, rfl⟩

/-- A sign that stands around a part is found at its ends. -/
theorem tokens_eq_enclosed {ps : List Placed} {t t' : Token} {us : List Token}
    (h : tokens ps = t :: us ++ [t']) :
    ∃ o qs o', ps = ⟨t, o⟩ :: qs ++ [⟨t', o'⟩] ∧ tokens qs = us := by
  obtain ⟨o, rs, rfl, hrs⟩ := tokens_eq_cons h
  obtain ⟨qs, ws, rfl, hqs, hws⟩ := tokens_eq_append hrs
  obtain ⟨o', rfl⟩ := tokens_eq_singleton hws
  exact ⟨o, qs, o', rfl, hqs⟩

/-- The first token of a part that is followed by more. -/
theorem BeginsWith.placed {p : Token → Bool} {us : List Token} (h : BeginsWith p us)
    {ps : List Placed} (hps : tokens ps = us) (rest : List Placed) :
    ∃ t o qs, ps ++ rest = ⟨t, o⟩ :: qs ∧ p t = true := by
  obtain ⟨t, vs, rfl, ht⟩ := h
  obtain ⟨o, qs, rfl, -⟩ := tokens_eq_cons hps
  exact ⟨t, o, qs ++ rest, rfl, ht⟩

theorem BeginsWith.head_append_ne {p : Token → Bool} {us : List Token} (h : BeginsWith p us)
    {ps : List Placed} (hps : tokens ps = us) (rest : List Placed) {t : Token}
    (ht : p t = false) : (tokens (ps ++ rest)).head? ≠ some t := by
  obtain ⟨t', o, qs, hq, ht'⟩ := h.placed hps rest
  rw [hq]
  rintro ⟨⟩
  simp [ht] at ht'

theorem BeginsWith.beginsStep {us : List Token} (h : BeginsWith Token.beginsStep us)
    {ps : List Placed} (hps : tokens ps = us) (rest : List Placed) :
    beginsStep (ps ++ rest) = true := by
  obtain ⟨t, o, qs, hq, ht⟩ := h.placed hps rest
  rw [hq]
  exact ht

/-- Which way a path is read. -/
theorem BeginsWith.any_append {p : Token → Bool} {us : List Token} (h : BeginsWith p us)
    {ps : List Placed} (hps : tokens ps = us) (rest : List Placed) {q : Token → Bool} {b : Bool}
    (hq : ∀ t, p t = true → q t = b) : (tokens (ps ++ rest)).head?.any q = b := by
  obtain ⟨t, o, qs, hps, ht⟩ := h.placed hps rest
  rw [hps]
  simp [hq t ht]

theorem Continuation.isEmpty {us : List Token} {ss : List Step} (h : Continuation us ss) :
    ss.isEmpty = false := by
  cases h with
  | slash h => cases h <;> rfl
  | doubleSlash h => rfl

/-- A slash ends the predicates before it. -/
theorem Continuation.stopsAt {us : List Token} {ss : List Step} (h : Continuation us ss)
    {ps : List Placed} (hps : tokens ps = us) (rest : List Placed) : StopsAt 0 (ps ++ rest) := by
  cases h with
  | slash h | doubleSlash h =>
      obtain ⟨o, qs, rfl, -⟩ := tokens_eq_cons hps
      simp [reach]

end Harvest.XPath.Grammar
