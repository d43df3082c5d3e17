import Harvest.Proofs.Catalog.Distinct
import Harvest.Proofs.Crawl.Caching

/-!
How many results an answer has.

The results are counted against the number that is wanted after every page, or after every record
where records are exported. So a crawl exceeds that number by what it finds between two counts, less
one. A number of zero is counted after the first results, as one is. The conjunctions of a query are
crawled one after the other, and their results are merged without a count.
-/

namespace Harvest.Catalog.ResultList

theorem size_push_le (l : ResultList) (r : Result) : (l.push r).size ≤ l.size + 1 := by
  cases hr : l.holds r with
  | true => rw [push_of_holds hr]; exact Nat.le_succ _
  | false => simp [size, items_push hr]

theorem size_foldl_push_le (l : ResultList) (results : List Result) :
    (results.foldl push l).size ≤ l.size + results.length := by
  induction results generalizing l with
  | nil => exact Nat.le_refl _
  | cons r rest ih =>
      have hpush := size_push_le l r
      have hrest := ih (l.push r)
      rw [List.foldl_cons, List.length_cons]
      omega

theorem size_merge_le (l other : ResultList) : (l.merge other).size ≤ l.size + other.size :=
  size_foldl_push_le l other.items

end Harvest.Catalog.ResultList

namespace Harvest.Crawl

open Harvest.Catalog Harvest.Rule Harvest.Script

def accepted (source : Source) (value : Value) : List Result :=
  (recordsOf value).filterMap source.resultOf?

/-- A page among these events has more results than so many. The pages of a source whose records are
exported have none. -/
def Overfull (source : Source) (few : Nat) (events : List Event) : Prop :=
  source.settings.kind = .paged ∧
    ∃ value, .ok value ∈ events.filterMap Event.outcome? ∧ few < (accepted source value).length

/-- How many crawls an answer is made of at most. -/
def crawls (source : Source) (q : Query) : Nat :=
  match source.settings.mode with
  | .wholeQuery => 1
  | .conjunctions => min source.settings.maxConjunctions q.conjunctions.length

/-- Something holds, unless a page since the start has had more results than so many. -/
def Unless (source : Source) (few : Nat) (start : World) (A : Prop) (w : World) : Prop :=
  ∃ events, w.history = start.history ++ events ∧ (A ∨ Overfull source few events)

section Counts

variable {source : Source} {around : Surroundings} {few most : Nat} {start w : World} {A B : Prop}

theorem Overfull.append {events : List Event} (h : Overfull source few events) (later : List Event) :
    Overfull source few (events ++ later) := by
  obtain ⟨hkind, value, hvalue, hfew⟩ := h
  exact ⟨hkind, value, by rw [List.filterMap_append]; exact List.mem_append_left _ hvalue, hfew⟩

namespace Unless

theorem refl (h : A) (w : World) : Unless source few w A w :=
  ⟨[], (List.append_nil _).symm, .inl h⟩

theorem imp (h : Unless source few start A w) (hAB : A → B) : Unless source few start B w := by
  obtain ⟨events, hevents, hA⟩ := h
  exact ⟨events, hevents, hA.imp_left hAB⟩

theorem and (hA : Unless source few start A w) (hB : Unless source few start B w) :
    Unless source few start (A ∧ B) w := by
  obtain ⟨events, hevents, hA⟩ := hA
  obtain ⟨events', hevents', hB⟩ := hB
  obtain rfl : events = events' := List.append_cancel_left (hevents.symm.trans hevents')
  refine ⟨events, hevents, ?_⟩
  obtain hA | hover := hA
  · exact hB.imp_left fun hB => ⟨hA, hB⟩
  · exact .inr hover

theorem append (h : Unless source few start A w) {w' : World} {later : List Event}
    (hlater : w'.history = w.history ++ later) : Unless source few start A w' := by
  obtain ⟨events, hevents, hA⟩ := h
  exact ⟨events ++ later, by rw [hlater, hevents, List.append_assoc],
    hA.imp_right fun h => h.append later⟩

end Unless

theorem lasting_unless (source : Source) (around : Surroundings) (few : Nat) (start : World)
    (A : Prop) :
    Lasting source around (fun c => Unless source few start A c.world)
      fun _ c => Unless source few start A c.world := by
  have hrecord (w : World) (e : Event) (h : Unless source few start A w) :
      Unless source few start A (w.record e) := h.append rfl
  refine lasting_of_steady (.of_record ?_ (fun w _ _ _ => hrecord w _)
    (fun w _ _ _ => hrecord w _) ?_) (fun w _ _ => hrecord w _) fun w _ => hrecord w _
  · intro w w' _ hhistory h
    exact h.append (hhistory.trans (List.append_nil _).symm)
  · intro w _ reason _ h
    obtain ⟨halts, hhalts, -⟩ := w.history_halt reason
    exact h.append hhalts

/-- A page has few results, unless it is overfull itself. -/
theorem triple_runScript_accepted (hkind : source.settings.kind = .paged) (script : Script) :
    Triple (fun p : Progress => Unless source few start A p.crawler.world)
      (runScript source around script)
      (fun value p => Unless source few start (A ∧ (accepted source value).length ≤ few)
        p.crawler.world)
      fun _ _ => True := by
  intro p hp
  obtain ⟨during, hduring, -, houtcomes⟩ :=
    history_execute source.engine around script ⟨p.session, p.crawler.world⟩
  rcases hexecute : execute source.engine around script ⟨p.session, p.crawler.world⟩ with
    ⟨fault | value, r⟩
  · rw [runScript_of_error hexecute]
    trivial
  · rw [runScript_of_ok hexecute]
    rw [hexecute] at hduring houtcomes
    refine (hp.append hduring).and ?_
    obtain ⟨events, hevents, -⟩ := hp
    refine ⟨events ++ during, by rw [← List.append_assoc, ← hevents]; exact hduring, ?_⟩
    by_cases hfew : (accepted source value).length ≤ few
    · exact .inl hfew
    · refine .inr ⟨hkind, value, ?_, Nat.lt_of_not_le hfew⟩
      simp [List.filterMap_append, houtcomes]

theorem lt_of_not_isEnough (hmost : source.settings.maxResults = some most) {l : ResultList}
    (h : ¬ isEnough source l = true) : l.size < most := by
  simpa [isEnough, hmost] using h

/-- Further pages are read only while less has been found than is wanted. -/
theorem triple_pages_size (hkind : source.settings.kind = .paged)
    (hmost : source.settings.maxResults = some most) (results : ResultList) (more : Nat) :
    Triple (fun p : Progress => Unless source few start (results.size ≤ most - 1) p.crawler.world)
      (pages source around .records results more)
      (fun found p => Unless source few start (found.size ≤ most - 1 + few) p.crawler.world)
      fun _ _ => True := by
  induction more using Nat.strongRecOn generalizing results with
  | _ more ih =>
      unfold pages
      refine Triple.bind (Q := fun _ (p : Progress) =>
          Unless source few start (results.size ≤ most - 1) p.crawler.world)
        (fun p hp => (lasting_unless source around few start _).poll p.crawler hp) fun halted => ?_
      cases halted with
      | true => exact triple_pure fun p hp => hp.imp fun h => by omega
      | false =>
          refine Triple.bind (triple_runScript_accepted hkind source.listing) fun value => ?_
          have hpushed : (pushAll results (accepted source value)).size ≤
              results.size + (accepted source value).length :=
            ResultList.size_foldl_push_le results _
          refine Triple.bind (keepsCrawler_takeNextPage
            (P := fun c => Unless source few start _ c.world) (E := fun _ _ => True) _) fun next => ?_
          have hreturn : Triple (fun p : Progress => Unless source few start
                (results.size ≤ most - 1 ∧ (accepted source value).length ≤ few) p.crawler.world)
              (pure (pushAll results (accepted source value)) : Crawling ResultList)
              (fun found p => Unless source few start (found.size ≤ most - 1 + few) p.crawler.world)
              fun _ _ => True :=
            triple_pure fun p hp => hp.imp fun h => by omega
          split
          · exact hreturn
          · next henough =>
            split
            · exact hreturn
            · split
              · exact hreturn
              · next more =>
                refine Triple.bind (keepsCrawler_setProperty
                  (P := fun c => Unless source few start _ c.world) (E := fun _ _ => True) _ _)
                  fun _ => ?_
                have hless := lt_of_not_isEnough hmost (by simpa using henough)
                refine (ih more (Nat.lt_succ_self more) _).imp ?_ (fun _ _ hp => hp)
                  fun _ _ hp => hp
                intro p hp
                exact hp.imp fun _ => Nat.le_sub_one_of_lt hless

/-- Records are exported only while less has been found than is wanted. -/
theorem size_pushUntilEnough (hmost : source.settings.maxResults = some most)
    (records : List Record) (results : ResultList) (h : results.size ≤ most - 1) :
    (pushUntilEnough source results records).size ≤ most - 1 + 1 := by
  induction records generalizing results with
  | nil => exact Nat.le_succ_of_le h
  | cons record rest ih =>
      have hpush := ResultList.size_foldl_push_le results
        (source.resultOf? record).toList
      have hone := (source.resultOf? record).length_toList_le
      unfold pushUntilEnough
      dsimp only
      split
      · exact hpush.trans (Nat.add_le_add h hone)
      · next henough =>
        have hless := lt_of_not_isEnough hmost henough
        exact ih _ (Nat.le_sub_one_of_lt hless)

theorem triple_listingThenExport_size (hmost : source.settings.maxResults = some most) :
    Triple (fun _ => True) (listingThenExport source around)
      (fun found _ => found.size ≤ most - 1 + 1) fun _ _ => True := by
  unfold listingThenExport
  split
  · exact triple_throw fun _ _ => trivial
  · refine Triple.bind triple_trivial fun found => ?_
    dsimp only
    split
    · exact triple_pure fun _ _ => Nat.zero_le _
    · refine Triple.bind triple_trivial fun _ => ?_
      refine Triple.bind triple_trivial fun value => triple_pure fun _ _ => ?_
      exact size_pushUntilEnough hmost (recordsOf value) .empty (Nat.zero_le _)

/-- What ends in a session of its own ends in the same way. -/
theorem triple_inSession {α : Type} {A : World → Prop} {Q : α → World → Prop} (session : Session)
    {work : Crawling α}
    (hwork : Triple (fun p : Progress => A p.crawler.world) work (fun a p => Q a p.crawler.world)
      fun _ _ => True) :
    Triple (fun c : Crawler => A c.world) (inSession session work) (fun a c => Q a c.world)
      fun _ _ => True := by
  intro c hc
  unfold inSession
  rcases hend : work ⟨session, c⟩ with ⟨fault | results, p⟩
  · trivial
  · exact hwork.of_ok hc hend

/-- A single crawl finds less than is wanted, and then what comes before the next count. -/
theorem triple_crawl_size (hmost : source.settings.maxResults = some most) (hfew : 1 ≤ few)
    (q : Query) :
    Triple (fun c : Crawler => Unless source few start True c.world) (crawl source around q)
      (fun found c => Unless source few start (found.size ≤ most - 1 + few) c.world)
      fun _ _ => True := by
  unfold crawl
  split
  · next hkind =>
    refine triple_inSession _ ((triple_pages_size hkind hmost .empty _).imp ?_ (fun _ _ hp => hp)
      fun _ _ hp => hp)
    intro p hp
    exact hp.imp fun _ => Nat.zero_le _
  · next hkind =>
    have hkeeps := keepsCrawler_listingThenExport (lasting_unless source around few start True) hkind
    refine triple_inSession _ ((hkeeps.and (triple_listingThenExport_size hmost)).imp ?_ ?_
      fun _ _ _ => trivial)
    · intro p hp
      exact ⟨hp, trivial⟩
    · intro found p hp
      have hsize : found.size ≤ most - 1 + few := by omega
      exact hp.1.imp fun _ => hsize

/-- A further crawl adds what it finds at most. -/
theorem triple_crawl_merge_size (hmost : source.settings.maxResults = some most) (hfew : 1 ≤ few)
    (results : ResultList) (found : Nat) (q : Query) :
    Triple (fun c : Crawler => Unless source few start (results.size ≤ found) c.world)
      (crawl source around q)
      (fun more c => Unless source few start
        ((results.merge more).size ≤ found + (most - 1 + few)) c.world)
      fun _ _ => True := by
  have hkeeps := keepsAnswer_crawl
    (lasting_unless source around few start (results.size ≤ found)) q
  have hsize : Triple (fun c : Crawler => Unless source few start True c.world)
      (crawl source around q)
      (fun more c => Unless source few start (more.size ≤ most - 1 + few) c.world)
      fun _ _ => True := triple_crawl_size hmost hfew q
  refine (hkeeps.and hsize).imp ?_ ?_ fun _ _ _ => trivial
  · intro c hc
    exact ⟨hc, hc.imp fun _ => trivial⟩
  · intro more c hc
    refine (hc.1.and hc.2).imp fun ⟨hfound, hmore⟩ => ?_
    calc (results.merge more).size
        ≤ results.size + more.size := results.size_merge_le more
      _ ≤ found + (most - 1 + few) := Nat.add_le_add hfound hmore

/-- Conjunctions add up. -/
theorem triple_crawlEach_size (hmost : source.settings.maxResults = some most) (hfew : 1 ≤ few)
    (results : ResultList) (found : Nat) (qs : List Query) :
    Triple (fun c : Crawler => Unless source few start (results.size ≤ found) c.world)
      (crawlEach source around results qs)
      (fun all c => Unless source few start (all.size ≤ found + qs.length * (most - 1 + few)) c.world)
      fun _ _ => True := by
  induction qs generalizing results found with
  | nil => exact triple_pure fun c hc => hc.imp fun h => Nat.le_add_right_of_le h
  | cons q qs ih =>
      have hcount : found + (most - 1 + few) + qs.length * (most - 1 + few) =
          found + (q :: qs).length * (most - 1 + few) := by
        rw [List.length_cons, Nat.succ_mul]
        omega
      unfold crawlEach
      refine Triple.bind triple_get fun c => ?_
      rintro _ ⟨rfl, hc⟩
      have hpoll := (lasting_unless source around few start _).poll c hc
      generalize c.poll around = polled at hpoll ⊢
      have hset : Triple (· = c) (set polled.2 : Crawler.Action PUnit)
          (fun _ c => Unless source few start (results.size ≤ found) c.world) fun _ _ => True :=
        triple_set hpoll
      refine Triple.bind hset (fun _ => ?_) c rfl
      split
      · exact triple_pure fun c hc => hc.imp fun h => Nat.le_add_right_of_le h
      · refine Triple.bind (triple_crawl_merge_size hmost hfew results found q) fun more => ?_
        rw [← hcount]
        exact ih (results.merge more) _

theorem triple_process_size (hmost : source.settings.maxResults = some most) (hfew : 1 ≤ few)
    (q : Query) :
    Triple (fun c : Crawler => Unless source few start True c.world) (process source around q)
      (fun found c => Unless source few start
        (found.size ≤ crawls source q * (most - 1 + few)) c.world)
      fun _ _ => True := by
  unfold process crawls
  cases source.settings.mode with
  | wholeQuery =>
      rw [Nat.one_mul]
      exact triple_crawl_size hmost hfew q
  | conjunctions =>
      refine (triple_crawlEach_size hmost hfew .empty 0 _).imp
        (fun c hc => hc.imp fun _ => Nat.le_refl 0) (fun found c hc => ?_) fun _ _ hc => hc
      rw [List.length_take, Nat.zero_add] at hc
      exact hc

/-- The settlement of a fault puts a halt on record at most. -/
theorem unless_settle {c : Crawler} (h : Unless source few start A c.world) (fault : Fault) :
    Unless source few start A (c.settle fault).world := by
  unfold Crawler.settle
  split
  · obtain ⟨halts, hhalts, -⟩ := c.world.history_halt fault.reason
    exact h.append hhalts
  · exact h

theorem ask_size (hmost : source.settings.maxResults = some most) (hfew : 1 ≤ few) {q : Query}
    {useCache : Bool} {c : Crawler}
    (hmiss : useCache = true → c.cache.get? (cacheKey q) = none) :
    Unless source few c.world
      ((ask source around q useCache c).1.size ≤ crawls source q * (most - 1 + few))
      (ask source around q useCache c).2.world := by
  have hlasting := lasting_unless source around few c.world True
  have hstart := hlasting.poll c (.refl trivial c.world)
  have hcache : (c.poll around).2.cache = c.cache := rfl
  rcases hpoll : c.poll around with ⟨_ | _, polled⟩ <;> rw [hpoll] at hstart hcache
  · rw [← hcache] at hmiss
    rcases hprocess : process source around q polled with ⟨fault | results, stop⟩
    · rw [ask_of_error hpoll hmiss hprocess]
      have hstop := (keepsAnswer_process hlasting q).of_error hstart hprocess
      exact (unless_settle hstop fault).imp fun _ => Nat.zero_le _
    · rw [ask_of_ok hpoll hmiss hprocess]
      have hstop := (triple_process_size hmost hfew q).of_ok hstart hprocess
      dsimp only
      split <;> exact hstop
  · rw [ask_of_halted hpoll]
    exact hstart.imp fun _ => Nat.zero_le _

end Counts

/-- An answer that is not in the cache exceeds the number that is wanted by what is found between
two counts, for each of its crawls. One crawl whose pages have a single result each keeps to it. -/
theorem answer_size_le (source : Source) (around : Surroundings) (q : Query) (useCache : Bool)
    (c : Crawler) (most : Nat) (hmost : source.settings.maxResults = some most)
    (hmiss : useCache = true → c.cache.get? (cacheKey q) = none) :
    ∃ events, (ask source around q useCache c).2.world.history = c.world.history ++ events ∧
      (∀ few, 1 ≤ few → ¬ Overfull source few events →
        (ask source around q useCache c).1.size ≤ crawls source q * (most - 1 + few)) ∧
      (1 ≤ most → crawls source q ≤ 1 → ¬ Overfull source 1 events →
        (ask source around q useCache c).1.size ≤ most) := by
  have hunless (few : Nat) (hfew : 1 ≤ few) :
      Unless source few c.world
        ((ask source around q useCache c).1.size ≤ crawls source q * (most - 1 + few))
        (ask source around q useCache c).2.world := ask_size hmost hfew hmiss
  obtain ⟨events, hevents, -⟩ := hunless 1 (Nat.le_refl 1)
  have hsize (few : Nat) (hfew : 1 ≤ few) (hpages : ¬ Overfull source few events) :
      (ask source around q useCache c).1.size ≤ crawls source q * (most - 1 + few) := by
    obtain ⟨events', hevents', hsize⟩ := hunless few hfew
    obtain rfl : events = events' := List.append_cancel_left (hevents.symm.trans hevents')
    exact hsize.resolve_right hpages
  refine ⟨events, hevents, hsize, fun hsome hone hpages => ?_⟩
  calc (ask source around q useCache c).1.size
      ≤ crawls source q * (most - 1 + 1) := hsize 1 (Nat.le_refl 1) hpages
    _ ≤ 1 * (most - 1 + 1) := Nat.mul_le_mul_right _ hone
    _ = most := by omega

/-- Every word of the start is a record. At most one result is wanted. -/
def almanac : Source where
  settings := ⟨"almanac", "1999 2000", .wholeQuery, .paged, 2, 8, 3, some 1, none, none, true⟩
  engine := .default
  listing := ⟨[.document "url", .parse [.mk .split .empty [.mk .substitute
    (SortedMap.empty.insert "pattern" "-") (["author", "title", "year"].map fun key =>
      .mk .find ((SortedMap.empty.insert "key" key).insert "pattern" "....") [])]]]⟩
  exporting := none
  details := none
  filter := Filter.everything
  converter := Query.formText
  mapper := entryOf

/-- The only page of the almanac has two results, and both are in the answer. -/
theorem ask_almanac :
    (ask almanac calm (.term "trees") true .initial).1.size = 2 ∧
      ((ask almanac calm (.term "trees") true .initial).2.world.history.filterMap
        Event.outcome?).map (fun outcome => outcome.toOption.map fun v => (accepted almanac v).length) =
          [some 2] := by
  have hrun : ((process almanac calm (.term "trees") (Crawler.initial.poll calm).2).1.toOption.map
        (·.size),
      ((process almanac calm (.term "trees") (Crawler.initial.poll calm).2).2.world.history.filterMap
        Event.outcome?).map fun outcome => outcome.toOption.map fun v => (accepted almanac v).length) =
      (some 2, [some 2]) := by cbv
  rcases hprocess : process almanac calm (.term "trees") (Crawler.initial.poll calm).2 with
    ⟨fault | results, stop⟩ <;> rw [hprocess] at hrun
  · cases (Prod.mk.inj hrun).1
  · obtain ⟨hsize, haccepted⟩ := Prod.mk.inj hrun
    rw [ask_of_ok rfl (fun _ => rfl) hprocess, if_pos rfl]
    exact ⟨Option.some.inj hsize, haccepted⟩

/-- The bound is met by a page of two results. -/
theorem answer_size_le_almanac :
    almanac.settings.maxResults = some 1 ∧
      Crawler.initial.cache.get? (cacheKey (.term "trees")) = none ∧
      ∃ events, (ask almanac calm (.term "trees") true .initial).2.world.history = events ∧
        ¬ Overfull almanac 2 events ∧
        (ask almanac calm (.term "trees") true .initial).1.size ≤
          crawls almanac (.term "trees") * (1 - 1 + 2) := by
  obtain ⟨events, hevents, hsize, -⟩ := answer_size_le almanac calm (.term "trees") true .initial 1
    rfl fun _ => rfl
  have hhistory : (ask almanac calm (.term "trees") true .initial).2.world.history = events := hevents
  have hpages : ¬ Overfull almanac 2 events := by
    rintro ⟨-, value, hvalue, hfew⟩
    have hlengths := ask_almanac.2
    rw [hhistory] at hlengths
    have hlength := List.mem_map_of_mem (f := fun outcome : Except Fault Value =>
      outcome.toOption.map fun v => (accepted almanac v).length) hvalue
    rw [hlengths, List.mem_singleton] at hlength
    exact absurd (Option.some.inj hlength) (Nat.ne_of_gt hfew)
  exact ⟨rfl, rfl, events, hhistory, hpages, hsize 2 (by decide) hpages⟩

/-- One result is wanted, and there are two in the answer. -/
theorem almanac_exceeds_limit :
    almanac.settings.maxResults = some 1 ∧ Crawler.initial.cache = .empty ∧
      1 < (ask almanac calm (.term "trees") true .initial).1.size := by
  refine ⟨rfl, rfl, ?_⟩
  rw [ask_almanac.1]
  decide

end Harvest.Crawl
