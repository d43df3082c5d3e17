import Harvest.Proofs.Crawl.Invariant
import Mathlib

/-!
What paged crawls return.

A crawl visits the pages of a listing one after the other. It returns the records of the pages that
it has visited, as far as they are complete and wanted, and stops only for one of four reasons. A
fault leaves nothing of what was found before.
-/

namespace Harvest.Crawl

open Harvest.Catalog Harvest.Rule Harvest.Script

structure Visit where
  start : Run
  value : Value
  stop : Run

def Visit.next? (v : Visit) : Option String := nextPage? (recordsOf v.value) v.stop.session.bag

/-- The results of the complete records of a visit that are wanted, without their details. -/
def Visit.results (source : Source) (v : Visit) : List Result :=
  ((recordsOf v.value).filter fun record =>
    (source.mapper record).issue?.isNone && source.filter (source.mapper record)).map fun record =>
      ⟨source.settings.source, source.mapper record, tokenOf? record, false⟩

def Visit.harvest (source : Source) (harvesting : Harvesting) (v : Visit) : List Result :=
  (recordsOf v.value).filterMap (harvested? source harvesting)

theorem Visit.results_eq (source : Source) (v : Visit) :
    v.results source = v.harvest source .records := by
  unfold Visit.results Visit.harvest
  induction recordsOf v.value with
  | nil => rfl
  | cons record rest ih =>
      rw [List.filterMap_cons, List.filter_cons]
      simp only [harvested?, Source.resultOf?] at ih ⊢
      split
      · rw [List.map_cons, ih]
      · exact ih

def Visit.add (source : Source) (harvesting : Harvesting) (v : Visit) (results : ResultList) :
    ResultList :=
  (v.harvest source harvesting).foldl .push results

/-- The crawl after a visit: the link to the next page is taken out of the properties, and the count
of faults begins anew. -/
def Visit.leave (v : Visit) (c : Crawler) : Progress :=
  ⟨{ v.stop.session with bag := v.stop.session.bag.erase "nextpage" },
    { c with failures := 0, world := v.stop.world }⟩

def Visit.follow (v : Visit) (c : Crawler) (address : String) : Progress :=
  ⟨(v.leave c).session.setProperty "url" (.scalar address), (v.leave c).crawler⟩

section Trails

variable (source : Source) (around : Surroundings)

/-- The crawl is not halted, and its listing script runs without a fault. -/
structure Visits (p : Progress) (v : Visit) : Prop where
  poll : (p.crawler.poll around).1 = false
  start : v.start = ⟨p.session, (p.crawler.poll around).2.world⟩
  execute : execute source.engine around source.listing v.start = (.ok v.value, v.stop)

/-- The pages that are visited from a state of the crawl on, with so many more allowed after the
first one, and what has been found with them in the end. -/
inductive Trail (harvesting : Harvesting) :
    Progress → ResultList → Nat → List Visit → ResultList → Progress → Prop
  | halted {p : Progress} {results : ResultList} {more : Nat}
    (hpoll : (p.crawler.poll around).1 = true) :
    Trail harvesting p results more [] results ⟨p.session, (p.crawler.poll around).2⟩
  | last {p : Progress} {results : ResultList} {more : Nat} {v : Visit}
    (hvisits : Visits source around p v)
    (hlast : v.next? = none ∨ more = 0 ∨
      harvesting = .records ∧ isEnough source (v.add source harvesting results) = true) :
    Trail harvesting p results more [v] (v.add source harvesting results)
      (v.leave (p.crawler.poll around).2)
  | next {p p' : Progress} {results found : ResultList} {more : Nat} {v : Visit}
    {visits : List Visit} {address : String}
    (hvisits : Visits source around p v)
    (hnext : v.next? = some address)
    (hrest : Trail harvesting (v.follow (p.crawler.poll around).2 address)
      (v.add source harvesting results) more visits found p') :
    Trail harvesting p results (more + 1) (v :: visits) found p'

variable {source around} {harvesting : Harvesting}

/-- A visit puts one execution on record. -/
theorem Visits.history {p : Progress} {v : Visit} (h : Visits source around p v) :
    ∃ events, v.stop.world.history = p.crawler.world.history ++ events ∧
      events.filterMap Event.start? = [(source.listing, v.start.session)] ∧
      events.filterMap Event.outcome? = [.ok v.value] := by
  obtain ⟨before, hbefore, hstarts, houtcomes⟩ := p.crawler.world.history_poll around
  obtain ⟨during, hduring, hstarts', houtcomes'⟩ :=
    history_execute source.engine around source.listing v.start
  rw [h.execute] at hduring houtcomes'
  refine ⟨before ++ during, ?_, ?_, ?_⟩
  · rw [hduring, h.start, ← List.append_assoc, ← hbefore]
    rfl
  · rw [List.filterMap_append, hstarts, hstarts', List.nil_append]
  · rw [List.filterMap_append, houtcomes, houtcomes', List.nil_append]

/-- Where the crawl is not halted, a script without a fault makes a visit. -/
theorem triple_visit (p : Progress) :
    Triple (fun p' => (p.crawler.poll around).1 = false ∧
        p' = ⟨p.session, (p.crawler.poll around).2⟩)
      (runScript source around source.listing)
      (fun value p' => ∃ v, Visits source around p v ∧ v.value = value ∧
        p' = ⟨v.stop.session, (v.leave (p.crawler.poll around).2).crawler⟩)
      fun _ _ => True := by
  rintro _ ⟨hpoll, rfl⟩
  rcases hexecute : execute source.engine around source.listing
    ⟨p.session, (p.crawler.poll around).2.world⟩ with ⟨fault | value, stop⟩
  · rw [runScript_of_error hexecute]
    trivial
  · rw [runScript_of_ok hexecute]
    exact ⟨⟨_, value, stop⟩, ⟨hpoll, rfl, hexecute⟩, rfl, rfl⟩

/-- Pages that end without a fault follow a trail. -/
theorem triple_trail (results : ResultList) (more : Nat) (start : Progress) :
    Triple (· = start) (pages source around harvesting results more)
      (fun found p => ∃ visits, Trail source around harvesting start results more visits found p)
      fun _ _ => True := by
  -- Every link that is followed leaves one page less that is allowed.
  induction more using Nat.strongRecOn generalizing results start with
  | _ more ih =>
      unfold pages
      refine Triple.bind (Q := fun halted p => (start.crawler.poll around).1 = halted ∧
        p = ⟨start.session, (start.crawler.poll around).2⟩) (by rintro _ rfl; exact ⟨rfl, rfl⟩)
        fun halted => ?_
      cases halted with
      | true =>
          refine triple_pure ?_
          rintro _ ⟨hpoll, rfl⟩
          exact ⟨[], .halted hpoll⟩
      | false =>
          refine Triple.bind (triple_visit start) fun value => ?_
          refine Triple.bind (Q := fun next p => ∃ v, Visits source around start v ∧
              v.value = value ∧ v.next? = next ∧ p = v.leave (start.crawler.poll around).2)
            (by rintro _ ⟨v, hvisits, rfl, rfl⟩; exact ⟨v, hvisits, rfl, rfl, rfl⟩) fun next => ?_
          split
          · next henough =>
            obtain ⟨hrecords, henough⟩ := Bool.and_eq_true_iff.mp henough
            refine triple_pure ?_
            rintro _ ⟨v, hvisits, rfl, -, rfl⟩
            exact ⟨[v], .last hvisits (.inr (.inr ⟨of_decide_eq_true hrecords, henough⟩))⟩
          · split
            · refine triple_pure ?_
              rintro _ ⟨v, hvisits, rfl, hnone, rfl⟩
              exact ⟨[v], .last hvisits (.inl hnone)⟩
            · next address =>
              split
              · refine triple_pure ?_
                rintro _ ⟨v, hvisits, rfl, -, rfl⟩
                exact ⟨[v], .last hvisits (.inr (.inl rfl))⟩
              · next more =>
                -- The rest of the trail begins where the link leads.
                rintro _ ⟨v, hvisits, rfl, hnext, rfl⟩
                have hset : Triple (· = v.leave (start.crawler.poll around).2)
                    (setProperty "url" (.scalar address))
                    (fun _ p => p = v.follow (start.crawler.poll around).2 address)
                    fun (_ : Fault) _ => True := by
                  rintro _ rfl
                  rfl
                refine Triple.bind hset (fun _ => (ih more (Nat.lt_succ_self more)
                  (v.add source harvesting results) _).imp (fun _ hp => hp) ?_ fun _ _ h => h) _ rfl
                rintro found p' ⟨visits, hrest⟩
                exact ⟨v :: visits, .next hvisits hnext hrest⟩

namespace Trail

variable {p p' : Progress} {results found : ResultList} {more : Nat} {visits : List Visit}

theorem executed (h : Trail source around harvesting p results more visits found p') :
    ∀ v ∈ visits, execute source.engine around source.listing v.start = (.ok v.value, v.stop) := by
  induction h with
  | halted _ => simp
  | last hvisits _ => simpa using hvisits.execute
  | next hvisits _ _ ih => simpa using ⟨hvisits.execute, ih⟩

theorem length_le (h : Trail source around harvesting p results more visits found p') :
    visits.length ≤ more + 1 := by
  induction h with
  | halted _ => exact Nat.zero_le _
  | last _ _ => exact Nat.le_add_left 1 _
  | next _ _ _ ih => exact Nat.succ_le_succ ih

/-- Only a halt keeps a crawl from its first page. -/
theorem ne_nil (h : Trail source around harvesting p results more visits found p')
    (hpoll : (p.crawler.poll around).1 = false) : visits ≠ [] := by
  cases h with
  | halted hhalted =>
      rw [hpoll] at hhalted
      cases hhalted
  | last _ _ => exact List.cons_ne_nil _ _
  | next _ _ _ => exact List.cons_ne_nil _ _

theorem found_eq (h : Trail source around harvesting p results more visits found p') :
    found = (visits.flatMap (Visit.harvest source harvesting)).foldl .push results := by
  induction h with
  | halted _ => rfl
  | last _ _ => rw [Visit.add, List.flatMap_singleton]
  | next _ _ _ ih => rw [List.flatMap_cons, List.foldl_append, ih, Visit.add]

theorem first (h : Trail source around harvesting p results more visits found p') :
    ∀ v ∈ visits.head?, v.start = ⟨p.session, (p.crawler.world.poll around).2⟩ := by
  cases h with
  | halted _ => simp
  | last hvisits _ =>
      rintro _ ⟨⟩
      exact hvisits.start
  | next hvisits _ _ =>
      rintro _ ⟨⟩
      exact hvisits.start

/-- Every page after the first one is the page to which the one before it has linked. -/
theorem followed (h : Trail source around harvesting p results more visits found p') :
    visits.IsChain fun v w => w.start.world = (v.stop.world.poll around).2 ∧
      ∃ address, v.next? = some address ∧
        w.start.session.bag.get? "url" = some (.scalar address) := by
  induction h with
  | halted _ => exact .nil
  | last _ _ => exact .singleton _
  | @next p p' results found more v visits address hvisits hnext hrest ih =>
      refine List.isChain_cons.mpr ⟨fun w hw => ?_, ih⟩
      rw [hrest.first w hw]
      exact ⟨rfl, address, hnext, SortedMap.get?_insert _ _ _⟩

/-- What ends a crawl: it is halted after its last page, if not before its first one, or else that
page has no link, was the last one allowed, or completed the results that are wanted, where these
count. -/
theorem last_page (h : Trail source around harvesting p results more visits found p') :
    p'.crawler.isHalted = true ∨ ∃ v ∈ visits.getLast?, v.next? = none ∨ more < visits.length ∨
      harvesting = .records ∧ isEnough source found = true := by
  induction h with
  | halted hpoll => exact .inl hpoll
  | @last p results more v _ hlast =>
      refine .inr ⟨v, rfl, ?_⟩
      obtain hnone | rfl | henough := hlast
      · exact .inl hnone
      · exact .inr (.inl Nat.one_pos)
      · exact .inr (.inr henough)
  | @next p p' results found more v visits address hvisits hnext hrest ih =>
      obtain hhalted | ⟨w, hw, hlast⟩ := ih
      · exact .inl hhalted
      · refine .inr ⟨w, ?_, ?_⟩
        · rw [List.getLast?_cons, Option.mem_def.mp hw]
          rfl
        · obtain hnone | hmore | henough := hlast
          · exact .inl hnone
          · exact .inr (.inl (Nat.succ_lt_succ hmore))
          · exact .inr (.inr henough)

/-- What the pages put on record. -/
theorem history (h : Trail source around harvesting p results more visits found p') :
    ∃ events, p'.crawler.world.history = p.crawler.world.history ++ events ∧
      events.filterMap Event.start? = visits.map (fun v => (source.listing, v.start.session)) ∧
      events.filterMap Event.outcome? = visits.map fun v => .ok v.value := by
  induction h with
  | @halted p _ _ _ =>
      obtain ⟨events, hevents, hquiet⟩ := p.crawler.world.history_poll around
      exact ⟨events, hevents, hquiet⟩
  | @last p _ _ v hvisits _ =>
      obtain ⟨events, hevents, hstarts, houtcomes⟩ := hvisits.history
      exact ⟨events, hevents, hstarts, houtcomes⟩
  | @next p p' _ _ _ v _ _ hvisits _ _ ih =>
      obtain ⟨events, hevents, hstarts, houtcomes⟩ := hvisits.history
      obtain ⟨later, hlater, hstarts', houtcomes'⟩ := ih
      refine ⟨events ++ later, ?_, ?_, ?_⟩
      · rw [hlater, ← List.append_assoc, ← hevents]
        rfl
      · rw [List.filterMap_append, hstarts, hstarts', List.map_cons, List.singleton_append]
      · rw [List.filterMap_append, houtcomes, houtcomes', List.map_cons, List.singleton_append]

end Trail

end Trails

def HasFault (events : List Event) : Prop :=
  ∃ fault, .error fault ∈ events.filterMap Event.outcome?

theorem hasFault_append {events later : List Event} :
    HasFault (events ++ later) ↔ HasFault events ∨ HasFault later := by
  simp [HasFault, List.filterMap_append, exists_or]

theorem not_hasFault_of_quiet {events : List Event} (h : Quiet events) : ¬ HasFault events := by
  simp [HasFault, h.2]

section Faults

variable (source : Source) (start : Crawler)

/-- Nothing has been put into the cache since the start, and no execution has ended in a fault. -/
def Faultless (c : Crawler) : Prop :=
  c.cache = start.cache ∧ ∃ events, c.world.history = start.world.history ++ events ∧
    ¬ HasFault events

/-- Nothing has been put into the cache since the start; an execution has ended in a fault, unless a
script was missing. -/
def Faulty (c : Crawler) : Prop :=
  c.cache = start.cache ∧ ∃ events, c.world.history = start.world.history ++ events ∧
    ((source.settings.kind = .twoStep → source.exporting.isSome) → HasFault events)

theorem lasting_faultless (around : Surroundings) :
    Lasting source around (Faultless start) fun _ c => Faulty source start c where
  poll c := by
    rintro ⟨hcache, events, hevents, hfaultless⟩
    obtain ⟨later, hlater, hquiet⟩ := c.world.history_poll around
    refine ⟨hcache, events ++ later, ?_, ?_⟩
    · rw [← List.append_assoc, ← hevents]
      exact hlater
    · rw [hasFault_append]
      exact not_or_intro hfaultless (not_hasFault_of_quiet hquiet)
  run script session c := by
    rintro ⟨hcache, events, hevents, hfaultless⟩ -
    obtain ⟨during, hduring, -, houtcomes⟩ :=
      history_execute source.engine around script ⟨session, c.world⟩
    rcases hexecute : execute source.engine around script ⟨session, c.world⟩ with ⟨fault | v, r⟩ <;>
      rw [hexecute] at hduring houtcomes
    · rw [runScript_of_error hexecute]
      refine ⟨hcache, events ++ during, ?_, fun _ => ?_⟩
      · rw [← List.append_assoc, ← hevents]
        exact hduring
      · rw [hasFault_append]
        exact .inr ⟨fault, by simp [houtcomes]⟩
    · rw [runScript_of_ok hexecute]
      refine ⟨hcache, events ++ during, ?_, ?_⟩
      · rw [← List.append_assoc, ← hevents]
        exact hduring
      · rw [hasFault_append]
        exact not_or_intro hfaultless (by simp [HasFault, houtcomes])
  cookies _ _ h := h
  cookiesAfter _ _ _ h := h
  missing hkind hnone c := by
    rintro ⟨hcache, events, hevents, -⟩
    refine ⟨hcache, events, hevents, fun hscript => ?_⟩
    have hsome := hscript hkind
    rw [hnone] at hsome
    cases hsome

variable {source start} {around : Surroundings}

theorem Faultless.refl : Faultless start start :=
  ⟨rfl, [], (List.append_nil _).symm, by simp [HasFault]⟩

theorem Faulty.settle {c : Crawler} (h : Faulty source start c) (fault : Fault) :
    Faulty source start (c.settle fault) := by
  unfold Crawler.settle
  split
  · obtain ⟨hcache, events, hevents, hfault⟩ := h
    obtain ⟨later, hlater, -⟩ := c.world.history_halt fault.reason
    refine ⟨hcache, events ++ later, ?_, fun hscript => hasFault_append.mpr (.inl (hfault hscript))⟩
    rw [← List.append_assoc, ← hevents]
    exact hlater
  · exact h

/-- The answer to a query during which an execution faults is empty, and is not put into the
cache. -/
theorem ask_of_fault (q : Query) (useCache : Bool) :
    ∃ events, (ask source around q useCache start).2.world.history =
        start.world.history ++ events ∧
      (HasFault events → (ask source around q useCache start).1 = .empty ∧
        (ask source around q useCache start).2.cache = start.cache) := by
  have hlasting := lasting_faultless source start around
  have hpoll := hlasting.poll start .refl
  unfold ask
  generalize start.poll around = polled at hpoll ⊢
  obtain ⟨halted, c⟩ := polled
  dsimp only at hpoll ⊢
  split
  · obtain ⟨-, events, hevents, hfaultless⟩ := hpoll
    exact ⟨events, hevents, fun h => absurd h hfaultless⟩
  · split
    · obtain ⟨-, events, hevents, hfaultless⟩ := hpoll
      exact ⟨events, hevents, fun h => absurd h hfaultless⟩
    · have hkeeps := keepsAnswer_process hlasting q
      rw [retrieve_eq]
      rcases hprocess : process source around q c with ⟨fault | results, c'⟩
      · obtain ⟨hcache, events, hevents, -⟩ := (hkeeps.of_error hpoll hprocess).settle fault
        exact ⟨events, hevents, fun _ => ⟨rfl, hcache⟩⟩
      · obtain ⟨-, events, hevents, hfaultless⟩ := hkeeps.of_ok hpoll hprocess
        refine ⟨events, ?_, fun h => absurd h hfaultless⟩
        dsimp only
        split <;> exact hevents

end Faults

/-- What a crawl of listing pages comes to, with the session and the world in which it starts, the
pages that it visits, what it finds, what it puts on record, and whether it is halted in the end. -/
structure PagedCrawl (source : Source) (around : Surroundings) (start : Run)
    (visits : List Visit) (found : ResultList) (events : List Event) (halted : Bool) : Prop where
  /-- The executions are those of the visits, one after the other. -/
  executed : ∀ v ∈ visits, execute source.engine around source.listing v.start = (.ok v.value, v.stop)
  begun : events.filterMap Event.start? = visits.map fun v => (source.listing, v.start.session)
  ended : events.filterMap Event.outcome? = visits.map fun v => .ok v.value
  some_page : 1 ≤ visits.length
  few_pages : visits.length ≤ max 1 source.settings.maxPages
  /-- The accepted records of the visits have been pushed in order. -/
  found_eq : found = (visits.flatMap (Visit.results source)).foldl .push .empty
  first : ∀ v ∈ visits.head?, v.start = ⟨start.session, (start.world.poll around).2⟩
  /-- Between two visits the token is asked, and the second one has the link of the first. -/
  followed : visits.IsChain fun v w => w.start.world = (v.stop.world.poll around).2 ∧
    ∃ address, v.next? = some address ∧ w.start.session.bag.get? "url" = some (.scalar address)
  /-- The crawl stops for a reason. -/
  stopped : halted = true ∨ source.settings.maxPages ≤ visits.length ∨
    (∃ most, source.settings.maxResults = some most ∧ most ≤ found.size) ∨
    ∃ v ∈ visits.getLast?, v.next? = none

/-- A trail of pages from the first one on is a crawl. -/
theorem Trail.pagedCrawl {source : Source} {around : Surroundings} {p p' : Progress}
    {visits : List Visit} {found : ResultList} {events : List Event}
    (h : Trail source around .records p .empty (source.settings.maxPages - 1) visits found p')
    (hpoll : (p.crawler.poll around).1 = false)
    (hstarts : events.filterMap Event.start? =
      visits.map fun v => (source.listing, v.start.session))
    (houtcomes : events.filterMap Event.outcome? = visits.map fun v => .ok v.value) :
    PagedCrawl source around ⟨p.session, p.crawler.world⟩ visits found events p'.crawler.isHalted where
  executed := h.executed
  begun := hstarts
  ended := houtcomes
  some_page := List.length_pos_iff.mpr (h.ne_nil hpoll)
  few_pages := h.length_le.trans (by omega)
  found_eq := by rw [funext (Visit.results_eq source), h.found_eq]
  first := h.first
  followed := h.followed
  stopped := by
    obtain hhalted | ⟨v, hv, hnone | hmore | ⟨-, henough⟩⟩ := h.last_page
    · exact .inl hhalted
    · exact .inr (.inr (.inr ⟨v, hv, hnone⟩))
    · exact .inr (.inl (by omega))
    · refine .inr (.inr (.inl ?_))
      obtain ⟨most, hmost, hle⟩ := (Option.any_eq_true _ _).mp henough
      exact ⟨most, hmost, of_decide_eq_true hle⟩

/-- A paged crawl that is not halted before its first page either comes to an execution that faults,
or returns the accepted records of the pages it visits. -/
theorem process_paged {source : Source} {around : Surroundings} (q : Query) {c : Crawler}
    (hkind : source.settings.kind = .paged) (hmode : source.settings.mode = .wholeQuery)
    (hpoll : (c.poll around).1 = false) :
    ∃ events, (process source around q c).2.world.history = c.world.history ++ events ∧
      (¬ HasFault events → ∃ visits found, (process source around q c).1 = .ok found ∧
        PagedCrawl source around ⟨sessionFor source q, c.world⟩ visits found events
          (process source around q c).2.isHalted) := by
  have hkeeps := keepsAnswer_process (lasting_faultless source c around) q
  have hwork : process source around q =
      inSession (sessionFor source q) (listing source around .records) := by
    rw [process, hmode, crawl, hkind]
  rcases hlisting : listing source around .records ⟨sessionFor source q, c⟩ with ⟨fault | found, p⟩
  · have hprocess : process source around q c = (.error fault,
        { p.crawler with cookies := keepCookies p.crawler.cookies p.session.cookies }) := by
      rw [hwork, inSession, hlisting]
    obtain ⟨-, events, hevents, hfault⟩ := hkeeps.of_error .refl hprocess
    rw [hprocess]
    exact ⟨events, hevents, fun h => absurd (hfault (by simp [hkind])) h⟩
  · have hprocess : process source around q c = (.ok found,
        { p.crawler with cookies := keepCookies p.crawler.cookies p.session.cookies }) := by
      rw [hwork, inSession, hlisting]
    obtain ⟨visits, htrail⟩ := (triple_trail _ _ _).of_ok rfl hlisting
    obtain ⟨events, hevents, hstarts, houtcomes⟩ := htrail.history
    rw [hprocess]
    exact ⟨events, hevents, fun _ => ⟨visits, found, rfl, htrail.pagedCrawl hpoll hstarts houtcomes⟩⟩

/-- A paged crawl returns exactly the accepted records of the pages that it visits, and nothing at
all if an execution faults. -/
theorem paged_crawl_exact (source : Source) (around : Surroundings) (q : Query) (c : Crawler)
    (hkind : source.settings.kind = .paged) (hmode : source.settings.mode = .wholeQuery) :
    ((c.poll around).1 = false →
      ∃ events, (process source around q c).2.world.history = c.world.history ++ events ∧
        (¬ HasFault events → ∃ visits found, (process source around q c).1 = .ok found ∧
          PagedCrawl source around ⟨sessionFor source q, c.world⟩ visits found events
            (process source around q c).2.isHalted)) ∧
    ∀ useCache, ∃ events,
      (ask source around q useCache c).2.world.history = c.world.history ++ events ∧
        (HasFault events → (ask source around q useCache c).1 = .empty ∧
          (ask source around q useCache c).2.cache = c.cache) :=
  ⟨process_paged q hkind hmode, fun useCache => ask_of_fault q useCache⟩

/-- A record whose title, author, year and link to the next page are the start of the source. -/
def yearbook : Source where
  settings := ⟨"yearbook", "1999", .wholeQuery, .paged, 2, 8, 3, none, none, none, true⟩
  engine := .default
  listing := ⟨[.document "url", .parse (["author", "nextpage", "title", "year"].map fun key =>
    .mk .find ((SortedMap.empty.insert "key" key).insert "pattern" "1999") [])]⟩
  exporting := none
  details := none
  filter := Filter.everything
  converter := Query.formText
  mapper := entryOf

/-- Nobody halts the work, and nothing can be fetched. -/
def calm : Surroundings := ⟨fun _ _ => .error (.client ""), fun _ => none, fun _ => .empty, true⟩

/-- Both pages that are allowed are visited; they hold the same record. -/
theorem paged_crawl_exact_yearbook :
    yearbook.settings.kind = .paged ∧ yearbook.settings.mode = .wholeQuery ∧
      ∃ events visits found, found.size = 1 ∧ visits.length = 2 ∧
        (process yearbook calm (.term "trees") .initial).1 = .ok found ∧
        PagedCrawl yearbook calm ⟨sessionFor yearbook (.term "trees"), .initial [host]⟩ visits found
          events (process yearbook calm (.term "trees") .initial).2.isHalted := by
  refine ⟨rfl, rfl, ?_⟩
  have hrun : ((process yearbook calm (.term "trees") .initial).1.toOption.map (·.size),
      ((process yearbook calm (.term "trees") .initial).2.world.history.filterMap
        Event.outcome?).map (·.isOk)) = (some 1, [true, true]) := by cbv
  obtain ⟨events, hevents, hpages⟩ :=
    (paged_crawl_exact yearbook calm (.term "trees") .initial rfl rfl).1 rfl
  rcases hprocess : process yearbook calm (.term "trees") .initial with ⟨outcome, c⟩
  rw [hprocess] at hrun hevents hpages
  obtain ⟨hsize, hoks⟩ := Prod.mk.inj hrun
  have hhistory : c.world.history = events := hevents
  rw [hhistory] at hoks
  have hfaultless : ¬ HasFault events := by
    rintro ⟨fault, hfault⟩
    have hok := List.mem_map_of_mem (f := (·.isOk)) hfault
    rw [hoks] at hok
    simp [Except.isOk, Except.toBool] at hok
  obtain ⟨visits, found, rfl, hcrawl⟩ := hpages hfaultless
  refine ⟨events, visits, found, Option.some.inj hsize, ?_, rfl, hcrawl⟩
  have hlength := congrArg List.length hoks
  rw [hcrawl.ended] at hlength
  simpa using hlength

end Harvest.Crawl
