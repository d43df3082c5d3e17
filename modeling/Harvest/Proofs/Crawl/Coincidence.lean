import Harvest.Proofs.Catalog.Distinct
import Harvest.Proofs.Crawl.Completion
import Mathlib.Data.List.Forall2

/-!
Which results become results of the same record when details are fetched.

Results are compared when they are pushed, and not again when one of them is completed where it
stands. Completing keeps the source and the token. So two results with tokens are of the same record
afterwards exactly if they were before, and results without tokens are not completed at all; but a
result with a token may be completed to the very entry of one without, and then the record stands
twice.
-/

namespace Harvest.Crawl

open Harvest.Catalog Harvest.Rule Harvest.Script

/-- What fetching details makes of a result: nothing, or what completes a result that has a token
and lacks its details. -/
inductive Becomes (source : Source) : Result → Result → Prop
  | same (r : Result) : Becomes source r r
  | completed {r : Result} (record : Record) (htoken : r.token.isSome = true)
    (hlacking : r.fetched = false) : Becomes source r (complete source r record)

/-- A result has been completed to the entry of another one of its source, which has no token. -/
structure RunsInto (before after other : Result) : Prop where
  token : before.token.isSome = true
  lacking : before.fetched = false
  fetched : after.fetched = true
  other_token : other.token = none
  source : before.source = other.source
  entry : after.entry = other.entry

instance (before after other : Result) : Decidable (RunsInto before after other) :=
  decidable_of_iff
    (before.token.isSome = true ∧ before.fetched = false ∧ after.fetched = true ∧
      other.token = none ∧ before.source = other.source ∧ after.entry = other.entry)
    ⟨fun ⟨h₁, h₂, h₃, h₄, h₅, h₆⟩ => ⟨h₁, h₂, h₃, h₄, h₅, h₆⟩,
      fun h => ⟨h.token, h.lacking, h.fetched, h.other_token, h.source, h.entry⟩⟩

def CouldRunInto (source : Source) (r other : Result) : Prop :=
  ∃ record, RunsInto r (complete source r record) other

namespace RunsInto

variable {x x' y : Result}

/-- Nothing runs into a result with a token. -/
theorem not_of_other_token (hy : y.token.isSome = true) : ¬ RunsInto x x' y := fun hinto => by
  rw [hinto.other_token] at hy
  cases hy

/-- A result without a token runs into nothing. -/
theorem not_of_token_eq_none (hx : x.token = none) : ¬ RunsInto x x' y := fun hinto => by
  have htoken := hinto.token
  rw [hx] at htoken
  cases htoken

theorem ne (h : RunsInto x x' y) : x ≠ y := by
  rintro rfl
  exact not_of_token_eq_none h.other_token h

end RunsInto

namespace Becomes

variable {source : Source} {a a' b b' : Result}

theorem same_source (h : Becomes source a a') : a'.source = a.source := by
  cases h <;> rfl

theorem same_token (h : Becomes source a a') : a'.token = a.token := by
  cases h <;> rfl

/-- A result without a token stays as it is. -/
theorem eq_of_token_eq_none (h : Becomes source a a') (hnone : a.token = none) : a' = a := by
  cases h with
  | same => rfl
  | completed _ htoken _ =>
      rw [hnone] at htoken
      cases htoken

theorem couldRunInto (h : Becomes source a a') (hinto : RunsInto a a' b) :
    CouldRunInto source a b := by
  cases h with
  | same =>
      have hfetched := hinto.fetched
      rw [hinto.lacking] at hfetched
      cases hfetched
  | completed record _ _ => exact ⟨record, hinto⟩

/-- Two results, the second one without a token, become results of the same record only if the first
one runs into the second one. -/
theorem sameRecord_iff_runsInto (h : Becomes source a a') (hsome : a.token.isSome = true)
    (hnone : b.token = none) (hab : a.sameRecord b = false) :
    a'.sameRecord b = true ↔ RunsInto a a' b := by
  obtain ⟨token, htoken⟩ := Option.isSome_iff_exists.mp hsome
  have hsame : a'.sameRecord b = true ↔ a.source = b.source ∧ a'.entry = b.entry := by
    simp [Result.sameRecord, h.same_source, h.same_token, htoken, hnone]
  rw [hsame]
  refine ⟨?_, fun hinto => ⟨hinto.source, hinto.entry⟩⟩
  rintro ⟨hsource, hentry⟩
  cases h with
  | same =>
      have hno : a.sameRecord b = true := hsame.mpr ⟨hsource, hentry⟩
      rw [hab] at hno
      cases hno
  | completed record _ hlacking => exact ⟨hsome, hlacking, rfl, hnone, hsource, hentry⟩

/-- Two results become results of the same record only if one of them runs into the other one. -/
theorem sameRecord_iff (ha : Becomes source a a') (hb : Becomes source b b')
    (hab : a.sameRecord b = false) :
    a'.sameRecord b' = true ↔ RunsInto a a' b ∨ RunsInto b b' a := by
  cases hta : a.token with
  | none =>
      rw [ha.eq_of_token_eq_none hta, or_iff_right (RunsInto.not_of_token_eq_none hta)]
      cases htb : b.token with
      | none =>
          rw [hb.eq_of_token_eq_none htb, hab]
          exact iff_of_false Bool.false_ne_true (RunsInto.not_of_token_eq_none htb)
      | some t =>
          rw [Result.sameRecord_comm] at hab ⊢
          exact hb.sameRecord_iff_runsInto (htb ▸ rfl) hta hab
  | some s =>
      cases htb : b.token with
      | none =>
          rw [hb.eq_of_token_eq_none htb, or_iff_left (RunsInto.not_of_token_eq_none htb)]
          exact ha.sameRecord_iff_runsInto (hta ▸ rfl) htb hab
      | some t =>
          have hsame : a'.sameRecord b' = a.sameRecord b := by
            simp only [Result.sameRecord, ha.same_source, hb.same_source, ha.same_token,
              hb.same_token, hta, htb]
          rw [hsame, hab]
          exact iff_of_false Bool.false_ne_true (not_or.mpr
            ⟨RunsInto.not_of_other_token (htb ▸ rfl), RunsInto.not_of_other_token (hta ▸ rfl)⟩)

end Becomes

/-- Where results have become others, every record stands once exactly if no result has run into
another one. -/
theorem pairwise_sameRecord_iff {source : Source} {before after : List Result}
    (hdistinct : before.Pairwise fun a b => a.sameRecord b = false)
    (h : List.Forall₂ (Becomes source) before after) :
    (after.Pairwise fun a b => a.sameRecord b = false) ↔
      ∀ x ∈ before.zip after, ∀ r ∈ before, ¬ RunsInto x.1 x.2 r := by
  obtain ⟨hlength, hzip⟩ := List.forall₂_iff_zip.mp h
  have hpairs : ∀ x ∈ before.zip after, Becomes source x.1 x.2 := fun x hx => hzip hx
  have hbefore : before = (before.zip after).map Prod.fst := (List.map_fst_zip hlength.le).symm
  have hafter : after = (before.zip after).map Prod.snd := (List.map_snd_zip hlength.ge).symm
  generalize before.zip after = pairs at hpairs hbefore hafter
  subst hbefore hafter
  rw [List.pairwise_map] at hdistinct ⊢
  let Apart (x y : Result × Result) : Prop := ¬ RunsInto x.1 x.2 y.1 ∧ ¬ RunsInto y.1 y.2 x.1
  have hapart : (pairs.Pairwise fun x y => x.2.sameRecord y.2 = false) ↔ pairs.Pairwise Apart := by
    have hiff : pairs.Pairwise fun x y => x.2.sameRecord y.2 = false ↔ Apart x y :=
      hdistinct.imp_of_mem fun hx hy hxy => by
        rw [← Bool.not_eq_true, (hpairs _ hx).sameRecord_iff (hpairs _ hy) hxy, not_or]
    exact ⟨.imp₂ (fun _ _ hxy => hxy.mp) hiff, .imp₂ (fun _ _ hxy => hxy.mpr) hiff⟩
  rw [hapart]
  constructor
  · intro hall x hx r hr
    obtain ⟨y, hy, rfl⟩ := List.mem_map.mp hr
    have hsymm : Std.Symm Apart := ⟨fun _ _ hxy => hxy.symm⟩
    have hself : ∀ z ∈ pairs, Apart z z := fun _ _ =>
      ⟨fun hinto => hinto.ne rfl, fun hinto => hinto.ne rfl⟩
    exact (hall.forall_of_forall hself hx hy).1
  · intro hnone
    refine List.pairwise_of_forall_mem_list fun x hx y hy => ⟨?_, ?_⟩
    · exact hnone x hx y.1 (List.mem_map_of_mem hy)
    · exact hnone y hy x.1 (List.mem_map_of_mem hx)

section Turns

variable {source : Source} {around : Surroundings} {script : Script}

theorem Handled.becomes {x : Handling} (h : Handled source around script x) :
    Becomes source x.before x.after := by
  cases h with
  | completed hasks _ _ => exact .completed _ hasks.token hasks.lacking
  | _ => exact .same _

theorem fetchEach_becomes (results : List Result) (completed : Nat) (c : Crawler) :
    List.Forall₂ (Becomes source) results
      (fetchEach source around script completed c results).1.2 := by
  obtain ⟨turns, hturns⟩ : ∃ turns, Handles source around script c completed results turns
      (fetchEach source around script completed c results) := fetchEach_handles results completed c
  rw [← hturns.after]
  conv => arg 2; rw [← hturns.before]
  rw [List.forall₂_map_left_iff, List.forall₂_map_right_iff, List.forall₂_same]
  exact fun x hx => (hturns.course.handled x hx).becomes

end Turns

variable {source : Source} {around : Surroundings}

theorem fetchDetails_becomes (results : ResultList) (c : Crawler) :
    List.Forall₂ (Becomes source) results.items
      (fetchDetails source around results c).1.2.items := by
  unfold fetchDetails
  cases source.details with
  | none => exact List.forall₂_same.mpr fun r _ => .same r
  | some script => exact fetchEach_becomes results.items 0 c

theorem fetchDetails_distinct_iff {results : ResultList} (h : results.Distinct) (c : Crawler) :
    (fetchDetails source around results c).1.2.Distinct ↔
      ∀ x ∈ results.items.zip (fetchDetails source around results c).1.2.items,
        ∀ r ∈ results.items, ¬ RunsInto x.1 x.2 r :=
  pairwise_sameRecord_iff h (fetchDetails_becomes results c)

theorem fetchDetails_distinct {results : ResultList} (h : results.Distinct)
    (hnone : ∀ x ∈ results.items, ∀ r ∈ results.items, ¬ CouldRunInto source x r) (c : Crawler) :
    (fetchDetails source around results c).1.2.Distinct := by
  have hbecomes : List.Forall₂ (Becomes source) results.items
      (fetchDetails source around results c).1.2.items := fetchDetails_becomes results c
  refine (fetchDetails_distinct_iff h c).mpr fun x hx r hr hinto => ?_
  have hx' : Becomes source x.1 x.2 := (List.forall₂_iff_zip.mp hbecomes).2 hx
  exact hnone x.1 (List.of_mem_zip hx).1 r hr (hx'.couldRunInto hinto)

/-- Of a list that is built by pushing and merging every result keeps its place, its source and its
token when details are fetched. Every record still stands once exactly if no result has been
completed to the entry of one without a token of its source; so it does if there are no details with
which a result would come to that. -/
theorem fetchDetails_holds_records_once_iff (source : Source) (around : Surroundings)
    (results : ResultList) (h : ResultList.Built results) (c : Crawler) :
    List.Forall₂ (Becomes source) results.items (fetchDetails source around results c).1.2.items ∧
      ((fetchDetails source around results c).1.2.Distinct ↔
        ∀ x ∈ results.items.zip (fetchDetails source around results c).1.2.items,
          ∀ r ∈ results.items, ¬ RunsInto x.1 x.2 r) ∧
      ((∀ x ∈ results.items, ∀ r ∈ results.items, ¬ CouldRunInto source x r) →
        ∀ (i j : Nat) (hi : i < (fetchDetails source around results c).1.2.items.length)
          (hj : j < (fetchDetails source around results c).1.2.items.length), i ≠ j →
          (fetchDetails source around results c).1.2.items[i].sameRecord
            (fetchDetails source around results c).1.2.items[j] = false) :=
  ⟨fetchDetails_becomes results c, fetchDetails_distinct_iff h.distinct c,
    fun hnone _ _ hi hj => (fetchDetails_distinct h.distinct hnone c).getElem hi hj⟩

def annual (token : Option String) (year : Option Int) (fetched : Bool) : Result :=
  ⟨"almanack", { Entry.empty with year := year }, token, fetched⟩

/-- An annual that lacks its year, which its token says, and one without a token. -/
def annuals (year : Int) : ResultList :=
  (ResultList.empty.push (annual (some "v:1999") none false)).push (annual none (some year) false)

theorem built_annuals (year : Int) : ResultList.Built (annuals year) :=
  .push (.push .empty _) _

theorem fetchDetails_annuals (year : Int) :
    (fetchDetails almanack calm (annuals year) .initial).1.2.items =
      [annual (some "v:1999") (some 1999) true, annual none (some year) false] := by
  cbv

/-- The year that the first annual gets is not that of the other one. -/
theorem fetchDetails_holds_records_once_iff_annuals :
    ResultList.Built (annuals 2024) ∧
      (fetchDetails almanack calm (annuals 2024) .initial).1.2.Distinct := by
  refine ⟨built_annuals 2024, ?_⟩
  rw [(fetchDetails_holds_records_once_iff almanack calm (annuals 2024) (built_annuals 2024)
    .initial).2.1, fetchDetails_annuals]
  decide

/-- The first annual gets the year of the other one, and both are of the same record. -/
theorem completion_repeats_record :
    ResultList.Built (annuals 1999) ∧
      ¬ (fetchDetails almanack calm (annuals 1999) .initial).1.2.Distinct := by
  refine ⟨built_annuals 1999, ?_⟩
  rw [ResultList.Distinct, fetchDetails_annuals]
  decide

end Harvest.Crawl
