/-!
What actions lead to.

Executions, crawls and evaluations of rules change a state and may fail. A triple says what holds
where an action ends, of its value or of its failure, if something held where it began. Much of what
is said of actions is that they keep an invariant, whether they fail or not.

Two runs of an action are in lockstep if they begin in related states, come to the same end and
leave related states. An invariant is the case of a state that is related to itself.
-/

namespace Harvest

variable {ε σ α β : Type} {P P' : σ → Prop} {Q Q' : α → σ → Prop} {R : β → σ → Prop}
  {E E' : ε → σ → Prop} {F : ε → Prop}

/-- From a state with `P` the action ends with a value and a state of which `Q` holds, or with a
failure and a state of which `E` holds. -/
def Triple (P : σ → Prop) (x : ExceptT ε (StateM σ) α) (Q : α → σ → Prop) (E : ε → σ → Prop) :
    Prop :=
  ∀ s, P s → match x s with
    | (.ok a, t) => Q a t
    | (.error e, t) => E e t

abbrev Keeps (P : σ → Prop) (F : ε → Prop) (x : ExceptT ε (StateM σ) α) : Prop :=
  Triple P x (fun _ => P) fun e s => F e ∧ P s

theorem bind_apply (x : ExceptT ε (StateM σ) α) (f : α → ExceptT ε (StateM σ) β) (s : σ) :
    (x >>= f) s = match x s with
      | (.ok a, t) => f a t
      | (.error e, t) => (.error e, t) := by
  simp only [bind, ExceptT.bind, ExceptT.mk, StateT.bind]
  rcases x s with ⟨a | e, t⟩ <;> rfl

/-- What may fail yields a value if each of its parts does. -/
theorem bind_eq_ok {x : Except ε α} {f : α → Except ε β} {b : β} :
    x >>= f = .ok b ↔ ∃ a, x = .ok a ∧ f a = .ok b := by
  cases x with
  | error e => simp [bind, Except.bind]
  | ok a => simp [bind, Except.bind]

theorem Triple.imp {x : ExceptT ε (StateM σ) α} (h : Triple P x Q E) (hP : ∀ s, P' s → P s)
    (hQ : ∀ a s, Q a s → Q' a s) (hE : ∀ e s, E e s → E' e s) : Triple P' x Q' E' := by
  intro s hs
  have h := h s (hP s hs)
  split at h
  · exact hQ _ _ h
  · exact hE _ _ h

theorem Triple.of_ok {x : ExceptT ε (StateM σ) α} (h : Triple P x Q E) {s t : σ} {a : α}
    (hs : P s) (hx : x s = (.ok a, t)) : Q a t := by
  have h := h s hs
  rw [hx] at h
  exact h

theorem Triple.of_error {x : ExceptT ε (StateM σ) α} (h : Triple P x Q E) {s t : σ} {e : ε}
    (hs : P s) (hx : x s = (.error e, t)) : E e t := by
  have h := h s hs
  rw [hx] at h
  exact h

/-- What two triples say holds together. -/
theorem Triple.and {x : ExceptT ε (StateM σ) α} (h : Triple P x Q E) (h' : Triple P' x Q' E') :
    Triple (fun s => P s ∧ P' s) x (fun a s => Q a s ∧ Q' a s) fun e s => E e s ∧ E' e s := by
  intro s hs
  have h := h s hs.1
  have h' := h' s hs.2
  split at h <;> next hx =>
    rw [hx] at h'
    exact ⟨h, h'⟩

theorem Triple.bind {x : ExceptT ε (StateM σ) α} {f : α → ExceptT ε (StateM σ) β}
    (hx : Triple P x Q E) (hf : ∀ a, Triple (Q a) (f a) R E) : Triple P (x >>= f) R E := by
  intro s hs
  have hx := hx s hs
  rw [bind_apply]
  split at hx
  · exact hf _ _ hx
  · exact hx

theorem triple_pure {a : α} (h : ∀ s, P s → Q a s) :
    Triple P (pure a : ExceptT ε (StateM σ) α) Q E := h

/-- Every action ends somehow. -/
theorem triple_trivial {x : ExceptT ε (StateM σ) α} :
    Triple P x (fun _ _ => True) fun _ _ => True := by
  intro s _
  split <;> trivial

/-- What is returned leaves everything as it is. -/
theorem triple_return {a : α} : Triple P (pure a : ExceptT ε (StateM σ) α) (fun _ => P) E :=
  triple_pure fun _ h => h

theorem triple_throw {e : ε} (h : ∀ s, P s → E e s) :
    Triple P (throw e : ExceptT ε (StateM σ) α) Q E := h

theorem triple_get : Triple P (get : ExceptT ε (StateM σ) σ) (fun s t => s = t ∧ P t) E :=
  fun _ h => ⟨rfl, h⟩

theorem triple_read : Triple P (get : ExceptT ε (StateM σ) σ) (fun _ => P) E := fun _ h => h

theorem triple_set {t : σ} (h : P t) :
    Triple P' (set t : ExceptT ε (StateM σ) PUnit) (fun _ => P) E := fun _ _ => h

theorem triple_modify {f : σ → σ} {Q : PUnit → σ → Prop} (h : ∀ s, P s → Q ⟨⟩ (f s)) :
    Triple P (modify f : ExceptT ε (StateM σ) PUnit) Q E := h

section Lockstep

variable {B : σ → σ → Prop} {Q : α → Prop} {R : β → Prop} {x : ExceptT ε (StateM σ) α}

def Ends (Q : α → Prop) (F : ε → Prop) : Except ε α → Prop
  | .ok a => Q a
  | .error e => F e

/-- From related states the action comes to one end, with the same value or the same failure, and
leaves related states. -/
def Lockstep (B : σ → σ → Prop) (F : ε → Prop) (Q : α → Prop) (x : ExceptT ε (StateM σ) α) : Prop :=
  ∀ s t, B s t → (x s).1 = (x t).1 ∧ Ends Q F (x s).1 ∧ B (x s).2 (x t).2

theorem Lockstep.bind {f : α → ExceptT ε (StateM σ) β} (hx : Lockstep B F Q x)
    (hf : ∀ a, Q a → Lockstep B F R (f a)) : Lockstep B F R (x >>= f) := by
  intro s t hst
  obtain ⟨hsame, hends, hstates⟩ := hx s t hst
  rw [bind_apply, bind_apply]
  generalize x s = p, x t = q at hsame hends hstates
  obtain ⟨end', s'⟩ := p
  obtain ⟨_, t'⟩ := q
  obtain rfl : end' = _ := hsame
  cases end' with
  | ok a => exact hf a hends s' t' hstates
  | error e => exact ⟨rfl, hends, hstates⟩

theorem lockstep_pure {a : α} (h : Q a) :
    Lockstep B F Q (pure a : ExceptT ε (StateM σ) α) := fun _ _ hst => ⟨rfl, h, hst⟩

theorem lockstep_throw {e : ε} (h : F e) :
    Lockstep B F Q (throw e : ExceptT ε (StateM σ) α) := fun _ _ hst => ⟨rfl, h, hst⟩

theorem lockstep_modify {f : σ → σ} (h : ∀ s t, B s t → B (f s) (f t)) :
    Lockstep B F (fun _ => True) (modify f : ExceptT ε (StateM σ) PUnit) :=
  fun s t hst => ⟨rfl, trivial, h s t hst⟩

theorem lockstep_mapM {g : β → ExceptT ε (StateM σ) α} {items : List β}
    (h : ∀ item ∈ items, Lockstep B F Q (g item)) :
    Lockstep B F (fun values => ∀ v ∈ values, Q v) (items.mapM g) := by
  induction items with
  | nil => exact lockstep_pure (by simp)
  | cons item rest ih =>
      obtain ⟨hitem, hrest⟩ := List.forall_mem_cons.mp h
      rw [List.mapM_cons]
      refine hitem.bind fun v hv => ?_
      refine (ih hrest).bind fun values hvalues => ?_
      exact lockstep_pure (List.forall_mem_cons.mpr ⟨hv, hvalues⟩)

/-- What keeps step with itself keeps an invariant. -/
theorem Lockstep.triple (h : Lockstep (fun s t => s = t ∧ P s) F Q x) :
    Triple P x (fun a s => Q a ∧ P s) fun e s => F e ∧ P s := by
  intro s hs
  obtain ⟨-, hends, -, hkept⟩ := h s s ⟨rfl, hs⟩
  split
  · next hx =>
    rw [hx] at hends hkept
    exact ⟨hends, hkept⟩
  · next hx =>
    rw [hx] at hends hkept
    exact ⟨hends, hkept⟩

end Lockstep

end Harvest
