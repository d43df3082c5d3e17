import Harvest.Fetch.Delay
import Mathlib

/-!
How long is waited between attempts.

A delay grows in arithmetic that stays at the greatest delay, once for the power and once for the
product, and is capped in the end. As no cap is above the greatest delay, it covers whatever has
been cut off on the way, and the delay is what arithmetic without bounds would make of it. Chance
only takes away from a delay, at most the whole of it or, with equal jitter, at most half.

The sums of the computation have no such stop. They are checked in a second form of it, in which a
sum that is too great has no value, and which has a value in every case.
-/

namespace Harvest.Json

variable {α : Type}

theorem le_of_natBits? {bits n : Nat} {j : Json} (h : natBits? bits j = some n) :
    n ≤ 2 ^ bits - 1 := by
  obtain ⟨i, hi, rfl⟩ := Option.map_eq_some_iff.mp h
  cases j with
  | number m =>
      have hbounds := (Option.filter_eq_some_iff.mp hi).2
      simp only [Bool.and_eq_true, decide_eq_true_eq] at hbounds
      exact Int.toNat_le.mpr hbounds.2
  | _ => cases hi

/-- A field with a default is the default or what has been decoded. -/
theorem of_optional? {P : α → Prop} {fields : List (String × Json)} {name : String} {default a : α}
    {decode : Json → Option α} (h : optional? fields name default decode = some a)
    (hdefault : P default) (hdecode : ∀ j a, decode j = some a → P a) : P a := by
  unfold optional? at h
  split at h
  · next j _ => exact hdecode j a h
  · cases h
    exact hdefault

end Harvest.Json

namespace Harvest.Fetch

open Json

/-- Whether a jitter may make one delay of another one. Of a delay that has no half, equal jitter
makes nothing else. -/
def Jitter.Allows (jitter : Jitter) (delay t : Nat) : Prop :=
  match jitter with
  | .none => t = delay
  | .full => t ≤ delay
  | .equal => if delay / 2 = 0 then t = delay else delay / 2 ≤ t ∧ t ≤ delay / 2 + delay / 2

/-- Chance never adds to a delay, and equal jitter takes away no more than half of it. -/
theorem Jitter.Allows.bounds {jitter : Jitter} {delay t : Nat} (h : jitter.Allows delay t) :
    t ≤ delay ∧ (jitter = .none → t = delay) ∧ (jitter = .equal → delay / 2 ≤ t) := by
  cases jitter with
  | none => exact ⟨Nat.le_of_eq h, fun _ => h, by simp⟩
  | full => exact ⟨h, by simp, by simp⟩
  | equal =>
      unfold Allows at h
      dsimp only at h
      split at h
      · next hhalf => exact ⟨Nat.le_of_eq h, by simp, fun _ => by omega⟩
      · exact ⟨by omega, by simp, fun _ => h.1⟩

namespace RetryPolicy

variable {p : RetryPolicy} {attempt : Nat}

/-- Both delays of the policy are whole numbers of 64 bits. -/
structure Fits (p : RetryPolicy) : Prop where
  base : p.base ≤ greatest
  most : p.most ≤ greatest

/-- Every policy that is read fits. -/
theorem fits_of_ofJson? {j : Json} (h : ofJson? j = some p) : p.Fits := by
  simp only [ofJson?, Option.bind_eq_bind, Option.bind_eq_some_iff] at h
  obtain ⟨fields, _, base, hbase, most, hmost, backoff, _, jitter, _, h⟩ := h
  cases h
  have hread {fields : List (String × Json)} {name : String} {value n : Nat}
      (h : optional? fields name value (natBits? 64) = some n) (hvalue : value ≤ greatest) :
      n ≤ greatest :=
    of_optional? (P := (· ≤ greatest)) h hvalue fun _ _ h => le_of_natBits? h
  exact ⟨hread hbase (by decide), hread hmost (by decide)⟩

/-- What the delay grows to in arithmetic without bounds. -/
def growth (p : RetryPolicy) (attempt : Nat) : Nat :=
  match p.backoff with
  | .exponential => p.base * 2 ^ attempt
  | .linear => p.base * (attempt + 1)
  | .constant => p.base

/-! Arithmetic that stays at the greatest delay. -/

theorem doublings_eq (attempt : Nat) : doublings attempt = min greatest (2 ^ attempt) := by
  unfold doublings
  split
  · next h =>
    have hle : 2 ^ attempt ≤ 2 ^ 63 := Nat.pow_le_pow_right (by decide) (by omega)
    exact (Nat.min_eq_right (Nat.le_trans hle (by decide))).symm
  · next h =>
    have hle : 2 ^ 64 ≤ 2 ^ attempt := Nat.pow_le_pow_right (by decide) (by omega)
    exact (Nat.min_eq_left (Nat.le_trans (by decide) hle)).symm

/-- A factor that was cut off at the greatest delay gives the same product as the whole factor. -/
theorem times_min_greatest (a b : Nat) : times a (min greatest b) = min greatest (a * b) := by
  unfold times
  rcases Nat.eq_zero_or_pos a with rfl | ha
  · simp
  · rcases Nat.le_total b greatest with hb | hb
    · rw [Nat.min_eq_right hb]
    · have hcut : greatest ≤ a * greatest := Nat.le_mul_of_pos_left greatest ha
      have hwhole : greatest ≤ a * b := Nat.le_trans hcut (Nat.mul_le_mul_left a hb)
      rw [Nat.min_eq_left hb, Nat.min_eq_left hcut, Nat.min_eq_left hwhole]

/-- A cap covers what was cut off at the greatest delay. -/
theorem Fits.min_greatest (h : p.Fits) (x : Nat) : min (min greatest x) p.most = min p.most x := by
  have := h.most
  omega

theorem delay_eq (h : p.Fits) (attempt : Nat) :
    p.delay attempt = min p.most (p.growth attempt) := by
  unfold delay growth
  cases p.backoff with
  | exponential =>
      dsimp only
      rw [doublings_eq, times_min_greatest, h.min_greatest]
  | linear => exact h.min_greatest _
  | constant => exact Nat.min_comm _ _

theorem growth_mono (p : RetryPolicy) : Monotone p.growth := by
  intro attempt later hle
  unfold growth
  cases p.backoff with
  | exponential => exact Nat.mul_le_mul_left _ (Nat.pow_le_pow_right (by decide) hle)
  | linear => exact Nat.mul_le_mul_left _ (Nat.succ_le_succ hle)
  | constant => exact Nat.le_refl _

theorem delay_mono (h : p.Fits) : Monotone p.delay := by
  intro attempt later hle
  rw [delay_eq h, delay_eq h]
  exact min_le_min_left _ (p.growth_mono hle)

theorem delay_le_most (p : RetryPolicy) (attempt : Nat) : p.delay attempt ≤ p.most :=
  Nat.min_le_right _ _

/-! What chance may choose. -/

theorem mem_delays_iff {t : Nat} :
    t ∈ p.delays attempt ↔ p.jitter.Allows (p.delay attempt) t := by
  have hrange : t ∈ p.delays attempt ↔ (p.range attempt).1 ≤ t ∧ t ≤ (p.range attempt).2 := by
    rw [delays, List.mem_range'_1]
    omega
  rw [hrange]
  unfold range Jitter.Allows
  cases p.jitter with
  | none => exact ⟨fun h => Nat.le_antisymm h.2 h.1, fun h => ⟨Nat.le_of_eq h.symm, Nat.le_of_eq h⟩⟩
  | full => exact and_iff_right (Nat.zero_le t)
  | equal =>
      dsimp only
      split
      · exact ⟨fun h => Nat.le_antisymm h.2 h.1, fun h => ⟨Nat.le_of_eq h.symm, Nat.le_of_eq h⟩⟩
      · exact Iff.rfl

/-! The computation with its sums checked. -/

def sum? (a b : Nat) : Option Nat := if a + b ≤ greatest then some (a + b) else none

def checkedDelay? (p : RetryPolicy) (attempt : Nat) : Option Nat := do
  let grown ← match p.backoff with
    | .exponential => some (times p.base (doublings attempt))
    | .linear => (sum? attempt 1).map (times p.base)
    | .constant => some p.base
  return min grown p.most

def checkedWait? (p : RetryPolicy) (attempt drawn : Nat) : Option Nat := do
  let delay ← p.checkedDelay? attempt
  match p.jitter with
  | .none => return delay
  | .full => return if delay = 0 then 0 else drawn
  | .equal => if delay / 2 = 0 then return delay else sum? (delay / 2) drawn

def drawLimit (p : RetryPolicy) (attempt : Nat) : Nat :=
  match p.jitter with
  | .none => 0
  | .full => p.delay attempt
  | .equal => p.delay attempt / 2

theorem checkedDelay?_eq (hattempt : attempt < 2 ^ 32) :
    p.checkedDelay? attempt = some (p.delay attempt) := by
  have hsum : sum? attempt 1 = some (attempt + 1) := if_pos (by simp only [greatest]; omega)
  unfold checkedDelay? delay
  cases p.backoff with
  | linear => rw [hsum]; rfl
  | exponential | constant => rfl

/-- No draw makes a sum too great, and each comes to a delay that chance may choose. -/
theorem exists_checkedWait?_eq (h : p.Fits) (hattempt : attempt < 2 ^ 32) {drawn : Nat}
    (hdrawn : drawn ≤ p.drawLimit attempt) :
    ∃ t ∈ p.delays attempt, p.checkedWait? attempt drawn = some t := by
  have hmost := Nat.le_trans (p.delay_le_most attempt) h.most
  simp only [mem_delays_iff, checkedWait?, checkedDelay?_eq hattempt, Option.bind_eq_bind,
    Option.bind_some]
  unfold drawLimit at hdrawn
  unfold Jitter.Allows
  generalize p.delay attempt = delay at hmost hdrawn
  cases hjitter : p.jitter with
  | none => exact ⟨delay, rfl, rfl⟩
  | full =>
      rw [hjitter] at hdrawn
      refine ⟨_, ?_, rfl⟩
      dsimp only at hdrawn ⊢
      split
      · exact Nat.zero_le _
      · exact hdrawn
  | equal =>
      rw [hjitter] at hdrawn
      dsimp only at hdrawn ⊢
      split
      · exact ⟨delay, rfl, rfl⟩
      · -- Twice the half of a delay is no more than the delay.
        refine ⟨delay / 2 + drawn, by omega, if_pos ?_⟩
        omega

/-- The delay is the least of the cap and of what it grows to in arithmetic without bounds; it never
falls from one attempt to a later one, nor exceeds the cap. Chance chooses no greater delay, without
jitter this one and with equal jitter no less than half of it; and whatever it draws, no sum exceeds
the greatest delay. -/
theorem delays_exact_and_capped (p : RetryPolicy) (h : p.Fits) :
    (∀ attempt, p.delay attempt = min p.most (p.growth attempt)) ∧
      (∀ attempt later, attempt ≤ later → p.delay attempt ≤ p.delay later) ∧
      (∀ attempt, p.delay attempt ≤ p.most) ∧
      (∀ attempt, ∀ t ∈ p.delays attempt, t ≤ p.delay attempt ∧
        (p.jitter = .none → t = p.delay attempt) ∧
        (p.jitter = .equal → p.delay attempt / 2 ≤ t)) ∧
      ∀ attempt < 2 ^ 32, ∀ drawn ≤ p.drawLimit attempt,
        ∃ t ∈ p.delays attempt, p.checkedWait? attempt drawn = some t :=
  ⟨delay_eq h, fun _ _ hle => delay_mono h hle, p.delay_le_most,
    fun _ _ ht => (mem_delays_iff.mp ht).bounds,
    fun _ hattempt _ hdrawn => exists_checkedWait?_eq h hattempt hdrawn⟩

/-- A policy whose delays come to the greatest one, with halves that leave a remainder. -/
def unboundedPolicy : RetryPolicy := ⟨3, greatest, .exponential, .equal⟩

/-- The last delay that is exact and the first one that is cut off, of which chance draws the
greatest half. -/
theorem delays_exact_and_capped_unbounded :
    unboundedPolicy.Fits ∧ unboundedPolicy.delay 62 = 3 * 2 ^ 62 ∧
      unboundedPolicy.delay 63 = greatest ∧
      (∀ t ∈ unboundedPolicy.delays 63, greatest / 2 ≤ t ∧ t ≤ greatest) ∧
      ∃ t ∈ unboundedPolicy.delays 63,
        unboundedPolicy.checkedWait? 63 (greatest / 2) = some t := by
  have hfits : unboundedPolicy.Fits := ⟨by decide, by decide⟩
  obtain ⟨hexact, _, _, hchance, hchecked⟩ := delays_exact_and_capped unboundedPolicy hfits
  have hcut : unboundedPolicy.delay 63 = greatest := (hexact 63).trans (by decide)
  refine ⟨hfits, (hexact 62).trans (by decide), hcut, fun t ht => ?_,
    hchecked 63 (by decide) _ (by decide)⟩
  obtain ⟨hle, _, hhalf⟩ := hchance 63 t ht
  rw [hcut] at hle hhalf
  exact ⟨hhalf rfl, hle⟩

end RetryPolicy

end Harvest.Fetch
