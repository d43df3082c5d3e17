import Harvest.Proofs.Crawl.Paging

/-!
What calls leave in the cache.

A call that uses the cache adds at most its own answer, under the key of its query and where nothing
was. A fault keeps the answer out of the cache, and so does every halt that the crawler causes
itself, for it comes from a fault. A halt from outside does not: a script that is abandoned ends
like one that has found nothing, the crawl ends like one that has seen its last page, and what was
found until then is put into the cache.
-/

namespace Harvest.Crawl

open Harvest.Catalog Harvest.Rule Harvest.Script

def HaltedOutside (around : Surroundings) (w : World) : Prop :=
  ∃ moment reason, around.halt? moment = some reason ∧ w.token.reason = some reason

/-- While crawls go on nobody halts them but from outside. -/
theorem lasting_haltedOutside (source : Source) (around : Surroundings) :
    Lasting source around (fun c => c.isHalted = false ∨ HaltedOutside around c.world)
      fun _ c => c.isHalted = false ∨ HaltedOutside around c.world := by
  refine lasting_of_steady (W := fun w => w.isHalted = false ∨ HaltedOutside around w)
    (.of_record ?_ (fun _ _ _ _ hw => hw) (fun _ _ _ _ hw => hw) ?_) (fun _ _ _ hw => hw)
    fun _ _ hw => hw
  · intro w w' htoken _ hw
    rwa [World.isHalted, HaltedOutside, htoken]
  · rintro w moment reason hreason (hgoing | ⟨moment', reason', hreason', hhalted⟩)
    · -- The first halt is the one that counts.
      refine .inr ⟨moment, reason, hreason, ?_⟩
      rw [World.halt, if_neg (Bool.eq_false_iff.mp hgoing)]
      simp [HaltToken.halt, reason_eq_none hgoing]
    · exact .inr ⟨moment', reason', hreason', reason_halt hhalted reason⟩

/-- What a call for the answer to a query does to the cache, with what it puts on record. -/
structure Caching (source : Source) (around : Surroundings) (q : Query) (start : Crawler)
    (answer : ResultList) (events : List Event) (stop : Crawler) : Prop where
  /-- Nothing is added but the answer, where nothing was. -/
  added : stop.cache = start.cache ∨
    start.cache.get? (cacheKey q) = none ∧ stop.cache = start.cache.insert (cacheKey q) answer
  halted_before : (start.poll around).1 = true → answer = .empty ∧ stop.cache = start.cache
  faulted : HasFault events → answer = .empty ∧ stop.cache = start.cache
  /-- The crawler has halted itself. -/
  halted_itself : stop.isHalted = true → ¬ HaltedOutside around stop.world →
    answer = .empty ∧ stop.cache = start.cache
  /-- Nothing else keeps the answer out of the cache. -/
  otherwise : (start.poll around).1 = false → start.cache.get? (cacheKey q) = none →
    ¬ HasFault events → (source.settings.kind = .twoStep → source.exporting.isSome) →
    stop.cache = start.cache.insert (cacheKey q) answer

section Calls

variable {source : Source} {around : Surroundings} {q : Query} {c polled stop : Crawler}

theorem ask_of_halted (hpoll : c.poll around = (true, polled)) (useCache : Bool) :
    ask source around q useCache c = (.empty, polled) := by
  simp only [ask, hpoll, if_true]

theorem ask_of_hit {results : ResultList} (hpoll : c.poll around = (false, polled))
    (hhit : polled.cache.get? (cacheKey q) = some results) :
    ask source around q true c = (results, polled) := by
  simp [ask, hpoll, hhit]

theorem ask_of_error {fault : Fault} {useCache : Bool} (hpoll : c.poll around = (false, polled))
    (hmiss : useCache = true → polled.cache.get? (cacheKey q) = none)
    (hprocess : process source around q polled = (.error fault, stop)) :
    ask source around q useCache c = (.empty, stop.settle fault) := by
  cases useCache with
  | true => simp [ask, hpoll, hmiss rfl, retrieve_eq, hprocess]
  | false => simp [ask, hpoll, retrieve_eq, hprocess]

theorem ask_of_ok {results : ResultList} {useCache : Bool} (hpoll : c.poll around = (false, polled))
    (hmiss : useCache = true → polled.cache.get? (cacheKey q) = none)
    (hprocess : process source around q polled = (.ok results, stop)) :
    ask source around q useCache c = (results,
      if useCache then { stop with cache := stop.cache.insert (cacheKey q) results } else stop) := by
  cases useCache with
  | true => simp [ask, hpoll, hmiss rfl, retrieve_eq, hprocess]
  | false => simp [ask, hpoll, retrieve_eq, hprocess]

/-- A crawl that ends without a fault has not been halted, or someone outside has halted it. -/
theorem haltedOutside_of_process {results : ResultList} (hgoing : c.isHalted = false)
    (hprocess : process source around q c = (.ok results, stop)) (hhalted : stop.isHalted = true) :
    HaltedOutside around stop.world := by
  have hkeeps := keepsAnswer_process (lasting_haltedOutside source around) q
  obtain hstill | houtside := hkeeps.of_ok (.inl hgoing) hprocess
  · rw [hhalted] at hstill
    cases hstill
  · exact houtside

/-- An empty answer that is not put into the cache, for a reason. -/
theorem Caching.of_empty {events : List Event} (hkept : stop.cache = c.cache)
    (hreason : (c.poll around).1 = false →
      (source.settings.kind = .twoStep → source.exporting.isSome) → HasFault events) :
    Caching source around q c .empty events stop where
  added := .inl hkept
  halted_before _ := ⟨rfl, hkept⟩
  faulted _ := ⟨rfl, hkept⟩
  halted_itself _ _ := ⟨rfl, hkept⟩
  otherwise hgoing _ hfaultless hscript := absurd (hreason hgoing hscript) hfaultless

/-- An answer from the cache, to a call that nobody halts. -/
theorem Caching.of_hit {events : List Event} {answer : ResultList} (hgoing : (c.poll around).1 = false)
    (hhit : c.cache.get? (cacheKey q) = some answer) (hkept : stop.cache = c.cache)
    (hfaultless : ¬ HasFault events) (hstop : stop.isHalted = false) :
    Caching source around q c answer events stop where
  added := .inl hkept
  halted_before hhalted := by
    rw [hgoing] at hhalted
    cases hhalted
  faulted hfault := absurd hfault hfaultless
  halted_itself hhalted := by
    rw [hstop] at hhalted
    cases hhalted
  otherwise _ hmiss := by
    rw [hhit] at hmiss
    cases hmiss

/-- An answer that is put into the cache: whoever has halted the work comes from outside. -/
theorem Caching.of_put {events : List Event} {answer : ResultList} (hgoing : (c.poll around).1 = false)
    (hmiss : c.cache.get? (cacheKey q) = none)
    (hput : stop.cache = c.cache.insert (cacheKey q) answer) (hfaultless : ¬ HasFault events)
    (houtside : stop.isHalted = true → HaltedOutside around stop.world) :
    Caching source around q c answer events stop where
  added := .inr ⟨hmiss, hput⟩
  halted_before hhalted := by
    rw [hgoing] at hhalted
    cases hhalted
  faulted hfault := absurd hfault hfaultless
  halted_itself hhalted hinside := absurd (houtside hhalted) hinside
  otherwise _ _ _ _ := hput

/-- Whoever halts the work during a call, an answer that is not in the cache yet is kept out of it
by a halt before the call, by a halt of the crawler's own and by a fault, and by nothing else. -/
theorem ask_caching (source : Source) (around : Surroundings) (q : Query) (c : Crawler) :
    ∃ events, (ask source around q true c).2.world.history = c.world.history ++ events ∧
      Caching source around q c (ask source around q true c).1 events
        (ask source around q true c).2 := by
  have hlasting := lasting_faultless source c around
  have hstart := hlasting.poll c .refl
  have hhalted : (c.poll around).2.isHalted = (c.poll around).1 := rfl
  rcases hpoll : c.poll around with ⟨_ | _, polled⟩ <;> rw [hpoll] at hstart hhalted
  · have hgoing : (c.poll around).1 = false := congrArg Prod.fst hpoll
    have hcache : polled.cache = c.cache := hstart.1
    cases hlookup : c.cache.get? (cacheKey q) with
    | some results =>
        obtain ⟨-, events, hevents, hfaultless⟩ := hstart
        rw [ask_of_hit hpoll (hcache ▸ hlookup)]
        exact ⟨events, hevents, .of_hit hgoing hlookup hcache hfaultless hhalted⟩
    | none =>
        have hmiss : polled.cache.get? (cacheKey q) = none := hcache ▸ hlookup
        have hkeeps := keepsAnswer_process hlasting q
        rcases hprocess : process source around q polled with ⟨fault | results, stop⟩
        · have hfaulty := (hkeeps.of_error hstart hprocess).settle fault
          obtain ⟨hkept, events, hevents, hfault⟩ := hfaulty
          rw [ask_of_error hpoll (fun _ => hmiss) hprocess]
          exact ⟨events, hevents, .of_empty hkept fun _ => hfault⟩
        · obtain ⟨hkept, events, hevents, hfaultless⟩ := hkeeps.of_ok hstart hprocess
          rw [ask_of_ok hpoll (fun _ => hmiss) hprocess, if_pos rfl]
          have hput : stop.cache.insert (cacheKey q) results =
              c.cache.insert (cacheKey q) results := by rw [hkept]
          have houtside : stop.isHalted = true → HaltedOutside around stop.world :=
            haltedOutside_of_process hhalted hprocess
          exact ⟨events, hevents, .of_put hgoing hlookup hput hfaultless houtside⟩
  · obtain ⟨hkept, events, hevents, -⟩ := hstart
    rw [ask_of_halted hpoll]
    refine ⟨events, hevents, .of_empty hkept fun hgoing => ?_⟩
    rw [hpoll] at hgoing
    cases hgoing

end Calls

/-- Someone halts the work after the page is taken and before it is parsed. -/
def hurried : Surroundings :=
  { calm with halt? := fun moment => if moment = .poll 3 then some "closing" else none }

/-- An interrupted call puts an empty list into the cache, where an undisturbed call finds a
result. -/
theorem interrupted_answer_cached :
    Crawler.initial.isHalted = false ∧
      (ask yearbook hurried (.term "trees") true .initial).2.isHalted = true ∧
      (ask yearbook hurried (.term "trees") true .initial).2.cache.get? (cacheKey (.term "trees")) =
        some .empty ∧
      (ask yearbook calm (.term "trees") true .initial).1.size = 1 := by
  have hcut : (process yearbook hurried (.term "trees") (Crawler.initial.poll hurried).2).1.toOption =
        some .empty ∧
      (process yearbook hurried (.term "trees") (Crawler.initial.poll hurried).2).2.isHalted = true := by
    cbv
  have hwhole : (process yearbook calm (.term "trees") (Crawler.initial.poll calm).2).1.toOption.map
      (·.size) = some 1 := by cbv
  refine ⟨rfl, ?_⟩
  rcases hprocess : process yearbook hurried (.term "trees") (Crawler.initial.poll hurried).2 with
    ⟨fault | results, stop⟩ <;> rw [hprocess] at hcut
  · cases hcut.1
  · obtain ⟨hresults, hhalted⟩ := hcut
    rw [ask_of_ok rfl (fun _ => rfl) hprocess, if_pos rfl]
    refine ⟨hhalted, ?_, ?_⟩
    · rw [SortedMap.get?_insert]
      exact hresults
    · rcases hprocess : process yearbook calm (.term "trees") (Crawler.initial.poll calm).2 with
        ⟨fault | results, stop⟩ <;> rw [hprocess] at hwhole
      · cases hwhole
      · rw [ask_of_ok rfl (fun _ => rfl) hprocess]
        exact Option.some.inj hwhole

end Harvest.Crawl
