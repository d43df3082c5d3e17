import Harvest.Proofs.Triple
import Mathlib.Data.List.Forall2

/-!
Two runs that can fail, compared result by result.

Runs agree when both return and their results are related, or both fail and their failures are
related. Agreement is kept by whatever runs are put together from, so two evaluations that are put
together in the same way agree as soon as their smallest parts do.
-/

namespace Harvest.XPath

variable {ε ε' α α' β β' : Type}

/-- Both runs return related results or both fail with related failures. -/
inductive Agree (E : ε → ε' → Prop) (R : α → α' → Prop) : Except ε α → Except ε' α' → Prop
  | ok {x : α} {y : α'} : R x y → Agree E R (.ok x) (.ok y)
  | error {p : ε} {q : ε'} : E p q → Agree E R (.error p) (.error q)

namespace Agree

variable {E : ε → ε' → Prop} {R : α → α' → Prop} {S : β → β' → Prop}

theorem bind {o : Except ε α} {o' : Except ε' α'} {f : α → Except ε β} {g : α' → Except ε' β'}
    (h : Agree E R o o') (hf : ∀ x y, R x y → Agree E S (f x) (g y)) :
    Agree E S (o >>= f) (o' >>= g) := by
  cases h with
  | ok h => exact hf _ _ h
  | error h => exact .error h

/-- Runs with equal results go on from one result. -/
theorem andThen {o : Except ε α} {o' : Except ε' α} {f : α → Except ε β}
    {g : α → Except ε' β'} (h : Agree E Eq o o') (hf : ∀ x, Agree E S (f x) (g x)) :
    Agree E S (o >>= f) (o' >>= g) := by
  refine h.bind ?_
  rintro x _ rfl
  exact hf x

theorem map {o : Except ε α} {o' : Except ε' α'} {f : α → β} {g : α' → β'}
    (h : Agree E R o o') (hf : ∀ x y, R x y → S (f x) (g y)) :
    Agree E S (f <$> o) (g <$> o') := by
  cases h with
  | ok h => exact .ok (hf _ _ h)
  | error h => exact .error h

theorem imp {R' : α → α' → Prop} {o : Except ε α} {o' : Except ε' α'} (h : Agree E R o o')
    (hR : ∀ x y, R x y → R' x y) : Agree E R' o o' := by
  cases h with
  | ok h => exact .ok (hR _ _ h)
  | error h => exact .error h

theorem mapM {f : α → Except ε β} {g : α' → Except ε' β'} {xs : List α} {ys : List α'}
    (h : List.Forall₂ R xs ys) (hf : ∀ x y, R x y → Agree E S (f x) (g y)) :
    Agree E (List.Forall₂ S) (xs.mapM f) (ys.mapM g) := by
  induction h with
  | nil =>
      rw [List.mapM_nil, List.mapM_nil]
      exact .ok .nil
  | cons hx _ ih =>
      rw [List.mapM_cons, List.mapM_cons]
      refine (hf _ _ hx).bind fun z w hz => ih.bind fun zs ws hzs => ?_
      exact .ok (.cons hz hzs)

theorem anyM {f : α → Except ε Bool} {g : α' → Except ε' Bool} {xs : List α} {ys : List α'}
    (h : List.Forall₂ R xs ys) (hf : ∀ x y, R x y → Agree E Eq (f x) (g y)) :
    Agree E Eq (xs.anyM f) (ys.anyM g) := by
  induction h with
  | nil => exact .ok rfl
  | cons hx _ ih =>
      rw [List.anyM_cons, List.anyM_cons]
      refine (hf _ _ hx).andThen fun found => ?_
      cases found with
      | true => exact .ok rfl
      | false => exact ih

end Agree

/-- Runs that agree and whose results are the same by the relation return the same, where failures
are renamed by `f`. -/
theorem Agree.eq_mapError {f : ε → ε'} {R : α → α → Prop} (hR : ∀ x y, R x y → x = y)
    {o : Except ε α} {o' : Except ε' α} (h : Agree (fun p q => q = f p) R o o') :
    o' = o.mapError f := by
  cases h with
  | ok h => rw [hR _ _ h]; rfl
  | error h => rw [h]; rfl

end Harvest.XPath
