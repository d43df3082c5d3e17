import Harvest.Text.Blank
import Mathlib.Data.List.DropRight
import Mathlib.Data.List.TakeWhile

/-!
Texts taken apart at characters and put together again.

The maximal runs of a text are told without an algorithm: the text is what stands in the gaps
between them, and no run goes on where it ends. So they are unique, and runs put together with gaps
between them are the runs of the whole. Trimming a text takes characters off both ends and leaves
nothing to take off.
-/

namespace Harvest.Text

variable {stop : Char → Bool} {cs gap run rest : List Char} {rs : List (List Char)}

/-- The maximal runs of characters that do not stop. Between two runs stands at least one character
that stops. -/
inductive MaximalRuns (stop : Char → Bool) : List Char → List (List Char) → Prop
  | none {gap : List Char} (hgap : ∀ c ∈ gap, stop c = true) : MaximalRuns stop gap []
  | next {gap run rest : List Char} {later : List (List Char)}
    (hgap : ∀ c ∈ gap, stop c = true) (hne : run ≠ []) (hrun : ∀ c ∈ run, stop c = false)
    (hend : ∀ c ∈ rest.head?, stop c = true) (hlater : MaximalRuns stop rest later) :
    MaximalRuns stop (gap ++ run ++ rest) (run :: later)

/-- What stops in front of a text is part of its first gap. -/
theorem MaximalRuns.append (h : MaximalRuns stop cs rs) (hgap : ∀ c ∈ gap, stop c = true) :
    MaximalRuns stop (gap ++ cs) rs := by
  have hgaps {gap' : List Char} (hgap' : ∀ c ∈ gap', stop c = true) :
      ∀ c ∈ gap ++ gap', stop c = true :=
    List.forall_mem_append.mpr ⟨hgap, hgap'⟩
  cases h with
  | none hgap' => exact .none (hgaps hgap')
  | next hgap' hne hrun hend hlater =>
      rw [← List.append_assoc, ← List.append_assoc]
      exact .next (hgaps hgap') hne hrun hend hlater

/-- A run that a text begins with. -/
theorem MaximalRuns.start (hne : run ≠ []) (hrun : ∀ c ∈ run, stop c = false)
    (hend : ∀ c ∈ rest.head?, stop c = true) (hlater : MaximalRuns stop rest rs) :
    MaximalRuns stop (run ++ rest) (run :: rs) :=
  .next (List.forall_mem_nil _) hne hrun hend hlater

/-- A character that goes on in front of a run makes it longer. -/
theorem MaximalRuns.extend {c e : Char} (h : MaximalRuns stop (e :: cs) rs) (hc : stop c = false)
    (he : stop e = false) :
    ∃ r later, rs = r :: later ∧ MaximalRuns stop (c :: e :: cs) ((c :: r) :: later) := by
  generalize htext : e :: cs = text at h
  cases h with
  | none hgap =>
      have hstop := hgap e (htext ▸ List.mem_cons_self)
      rw [he] at hstop
      cases hstop
  | @next gap r rest later hgap hne hrun hend hlater =>
      cases gap with
      | nil =>
          exact ⟨r, later, rfl, .start (List.cons_ne_nil c r)
            (List.forall_mem_cons.mpr ⟨hc, hrun⟩) hend hlater⟩
      | cons x gap =>
          obtain ⟨rfl, _⟩ := List.cons.inj htext
          rw [hgap e List.mem_cons_self] at he
          cases he

section Equations

variable {c e : Char}

theorem runs_cons_of_stop (hc : stop c = true) : runs stop (c :: cs) = runs stop cs := by
  simp [runs, hc]

theorem runs_singleton (hc : stop c = false) : runs stop [c] = [[c]] := by simp [runs, hc]

theorem runs_cons_before_stop (hc : stop c = false) (he : stop e = true) :
    runs stop (c :: e :: cs) = [c] :: runs stop (e :: cs) := by
  rw [runs.eq_def]
  simp [hc, he]

theorem runs_cons_before_run {r : List Char} (hc : stop c = false) (he : stop e = false)
    (h : runs stop (e :: cs) = r :: rs) : runs stop (c :: e :: cs) = (c :: r) :: rs := by
  rw [runs.eq_def]
  simp [hc, he, h]

end Equations

theorem maximalRuns_runs (stop : Char → Bool) (cs : List Char) :
    MaximalRuns stop cs (runs stop cs) := by
  induction cs with
  | nil => exact .none (List.forall_mem_nil _)
  | cons c cs ih =>
      cases hc : stop c with
      | true =>
          rw [runs_cons_of_stop hc]
          exact ih.append (List.forall_mem_singleton.mpr hc)
      | false =>
          have hrun : ∀ x ∈ [c], stop x = false := List.forall_mem_singleton.mpr hc
          cases cs with
          | nil =>
              rw [runs_singleton hc]
              exact .start (List.cons_ne_nil c []) hrun (by simp) ih
          | cons e es =>
              cases he : stop e with
              | true =>
                  rw [runs_cons_before_stop hc he]
                  exact .start (List.cons_ne_nil c []) hrun (by simpa using he) ih
              | false =>
                  obtain ⟨r, later, hruns, hmaximal⟩ := ih.extend hc he
                  rw [runs_cons_before_run hc he hruns]
                  exact hmaximal

theorem runs_append_gap (hgap : ∀ c ∈ gap, stop c = true) :
    runs stop (gap ++ cs) = runs stop cs := by
  induction gap with
  | nil => rfl
  | cons c gap ih =>
      obtain ⟨hc, hgap⟩ := List.forall_mem_cons.mp hgap
      rw [List.cons_append, runs_cons_of_stop hc, ih hgap]

theorem runs_append_run (hne : run ≠ []) (hrun : ∀ c ∈ run, stop c = false)
    (hend : ∀ c ∈ rest.head?, stop c = true) :
    runs stop (run ++ rest) = run :: runs stop rest := by
  induction run with
  | nil => exact absurd rfl hne
  | cons c run ih =>
      obtain ⟨hc, hrun⟩ := List.forall_mem_cons.mp hrun
      cases run with
      | nil =>
          cases rest with
          | nil => exact runs_singleton hc
          | cons e rest => exact runs_cons_before_stop hc (hend e rfl)
      | cons e run =>
          exact runs_cons_before_run hc (hrun e List.mem_cons_self) (ih (List.cons_ne_nil e run) hrun)

/-- Every text has maximal runs, and no others. -/
theorem maximalRuns_iff : MaximalRuns stop cs rs ↔ runs stop cs = rs := by
  constructor
  · intro h
    induction h with
    | @none gap hgap =>
        rw [← List.append_nil gap, runs_append_gap hgap]
        rfl
    | next hgap hne hrun hend _ ih =>
        rw [List.append_assoc, runs_append_gap hgap, runs_append_run hne hrun hend, ih]
  · rintro rfl
    exact maximalRuns_runs stop cs

theorem MaximalRuns.forall_mem (h : MaximalRuns stop cs rs) :
    ∀ r ∈ rs, r ≠ [] ∧ ∀ c ∈ r, stop c = false := by
  induction h with
  | none _ => exact List.forall_mem_nil _
  | next _ hne hrun _ _ ih => exact List.forall_mem_cons.mpr ⟨⟨hne, hrun⟩, ih⟩

/-- Runs put together with a gap between each two are the runs of the whole. -/
theorem maximalRuns_intercalate (hne : gap ≠ []) (hgap : ∀ c ∈ gap, stop c = true)
    (hrs : ∀ r ∈ rs, r ≠ [] ∧ ∀ c ∈ r, stop c = false) :
    MaximalRuns stop (gap.intercalate rs) rs := by
  induction rs with
  | nil => exact .none (List.forall_mem_nil _)
  | cons r rs ih =>
      obtain ⟨⟨hr, hrun⟩, hrs⟩ := List.forall_mem_cons.mp hrs
      cases rs with
      | nil =>
          rw [List.intercalate_singleton]
          have hlast := MaximalRuns.start hr hrun (by simp) (ih hrs)
          rwa [List.intercalate_nil, List.append_nil] at hlast
      | cons r' rs =>
          obtain ⟨c, more, rfl⟩ := List.exists_cons_of_ne_nil hne
          rw [List.intercalate_cons_cons, List.append_assoc]
          exact .start hr hrun (by simpa using hgap c List.mem_cons_self) ((ih hrs).append hgap)

/-! What trimming leaves. -/

theorem trimChars_sublist (cs : List Char) : (trimChars cs).Sublist cs :=
  (List.rdropWhile_prefix isBlank (trimStart cs)).sublist.trans (List.dropWhile_sublist isBlank)

theorem trimChars_trimChars (cs : List Char) : trimChars (trimChars cs) = trimChars cs := by
  -- What is left begins as the text did behind its first blanks.
  have hstart : trimStart (trimChars cs) = trimChars cs := by
    have hbegins : trimChars cs <+: trimStart cs := List.rdropWhile_prefix isBlank _
    refine List.dropWhile_eq_self_iff.mpr fun hl => ?_
    rw [hbegins.getElem hl]
    exact List.dropWhile_get_zero_not isBlank cs _
  rw [trimChars, hstart]
  exact List.rdropWhile_idempotent isBlank (trimStart cs)

theorem toList_trim (s : String) : (trim s).toList = trimChars s.toList := String.toList_ofList

theorem trim_trim (s : String) : trim (trim s) = trim s := by
  rw [trim, toList_trim, trimChars_trimChars, ← trim]

end Harvest.Text
