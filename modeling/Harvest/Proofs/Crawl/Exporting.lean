import Harvest.Proofs.Catalog.Distinct
import Harvest.Proofs.Crawl.Paging

/-!
What two-step crawls export.

The tokens of the listing pages pass through a list of results that have nothing but their tokens.
It holds two of them apart exactly if their tokens are different, so every token of the pages that
are visited is exported once, however many results are wanted.
-/

namespace Harvest.Crawl

open Harvest.Catalog Harvest.Rule Harvest.Script

/-- The members of the first list, each of them once and in the order in which they first occur. -/
structure FirstOccurrences (all once : List String) : Prop where
  mem : ∀ token, token ∈ once ↔ token ∈ all
  nodup : once.Nodup
  order : once.Pairwise fun s t => all.idxOf s < all.idxOf t

namespace FirstOccurrences

variable {all once : List String}

theorem nil : FirstOccurrences [] [] := ⟨fun _ => .rfl, .nil, .nil⟩

theorem eq_nil_iff (h : FirstOccurrences all once) : once = [] ↔ all = [] := by
  simp only [List.eq_nil_iff_forall_not_mem, h.mem]

/-- What comes later leaves the first occurrences where they are. -/
theorem idxOf_append (h : FirstOccurrences all once) {token : String} (hseen : token ∈ once)
    (later : List String) : (all ++ later).idxOf token = all.idxOf token :=
  List.idxOf_append_of_mem ((h.mem token).mp hseen)

theorem order_append (h : FirstOccurrences all once) (later : List String) :
    once.Pairwise fun s t => (all ++ later).idxOf s < (all ++ later).idxOf t :=
  h.order.imp_of_mem fun hs ht hlt => by rwa [h.idxOf_append hs, h.idxOf_append ht]

/-- A member that has occurred changes nothing. -/
theorem seen (h : FirstOccurrences all once) {token : String} (hseen : token ∈ once) :
    FirstOccurrences (all ++ [token]) once where
  mem t := by
    rw [List.mem_append, List.mem_singleton, ← h.mem t]
    exact ⟨.inl, fun ht => ht.elim id (· ▸ hseen)⟩
  nodup := h.nodup
  order := h.order_append [token]

/-- A member that has not occurred comes last. -/
theorem unseen (h : FirstOccurrences all once) {token : String} (hunseen : token ∉ once) :
    FirstOccurrences (all ++ [token]) (once ++ [token]) where
  mem t := by rw [List.mem_append, List.mem_append, h.mem t]
  nodup := List.nodup_append.mpr ⟨h.nodup, List.nodup_singleton _, fun s hs t ht heq =>
    hunseen (List.mem_singleton.mp ht ▸ heq ▸ hs)⟩
  order := by
    have hnew : (all ++ [token]).idxOf token = all.length := by
      rw [List.idxOf_append_of_notMem fun hall => hunseen ((h.mem token).mpr hall),
        List.idxOf_cons_self, Nat.add_zero]
    refine List.pairwise_append.mpr ⟨h.order_append [token], List.pairwise_singleton _ _,
      fun s hs t ht => ?_⟩
    rw [List.mem_singleton.mp ht, hnew, h.idxOf_append hs]
    exact List.idxOf_lt_length_of_mem ((h.mem s).mp hs)

end FirstOccurrences

def Visit.tokens (v : Visit) : List String := (recordsOf v.value).filterMap tokenOf?

def bare (source : Source) (token : String) : Result :=
  ⟨source.settings.source, .empty, some token, false⟩

theorem Visit.harvest_tokens (source : Source) (v : Visit) :
    v.harvest source .tokens = v.tokens.map (bare source) := by
  rw [Visit.tokens, List.map_filterMap]
  rfl

/-- A token is pushed unless it has been. -/
theorem push_bare (source : Source) (once : List String) (token : String) :
    ResultList.push ⟨once.map (bare source)⟩ (bare source token) =
      ⟨(if token ∈ once then once else once ++ [token]).map (bare source)⟩ := by
  have hholds : ResultList.holds ⟨once.map (bare source)⟩ (bare source token) =
      decide (token ∈ once) := by
    rw [ResultList.holds, List.any_map, ← List.contains_eq_mem, List.contains_eq_any_beq]
    congr 1
    funext s
    simp [Result.sameRecord, bare, Bool.beq_comm]
  by_cases hseen : token ∈ once
  · rw [ResultList.push_of_holds (hholds.trans (decide_eq_true hseen)), if_pos hseen]
  · have hpush := ResultList.items_push (hholds.trans (decide_eq_false hseen))
    rw [if_neg hseen, List.map_append]
    exact congrArg ResultList.mk hpush

/-- Of all tokens that are pushed, the first occurrences are left. -/
theorem firstOccurrences_of_push (source : Source) (tokens : List String) :
    ∃ once, (tokens.map (bare source)).foldl ResultList.push ResultList.empty =
        ⟨once.map (bare source)⟩ ∧ FirstOccurrences tokens once := by
  -- The last token is pushed last.
  induction tokens using List.reverseRecOn with
  | nil => exact ⟨[], rfl, .nil⟩
  | append_singleton tokens token ih =>
      obtain ⟨once, hpushed, honce⟩ := ih
      refine ⟨if token ∈ once then once else once ++ [token], ?_, ?_⟩
      · rw [List.map_append, List.foldl_append, hpushed]
        exact push_bare source once token
      · split
        · next hseen => exact honce.seen hseen
        · next hunseen => exact honce.unseen hunseen

/-- What a two-step crawl puts on record, with the session and the world in which it starts, the
listing pages that it visits, and where the listing ends. -/
structure TwoStepCrawl (source : Source) (around : Surroundings) (script : Script) (start : Run)
    (visits : List Visit) (listed : Progress) (events : List Event) : Prop where
  /-- The executions of the listing are those of the visits, one after the other. -/
  executed : ∀ v ∈ visits,
    execute source.engine around source.listing v.start = (.ok v.value, v.stop)
  few_pages : visits.length ≤ max 1 source.settings.maxPages
  first : ∀ v ∈ visits.head?, v.start = ⟨start.session, (start.world.poll around).2⟩
  followed : visits.IsChain fun v w => w.start.world = (v.stop.world.poll around).2 ∧
    ∃ address, v.next? = some address ∧ w.start.session.bag.get? "url" = some (.scalar address)
  /-- The listing stops for a reason, and that enough has been found is none. -/
  stopped : listed.crawler.isHalted = true ∨ source.settings.maxPages ≤ visits.length ∨
    ∃ v ∈ visits.getLast?, v.next? = none
  unexported : visits.flatMap Visit.tokens = [] →
    events.filterMap Event.start? = visits.map fun v => (source.listing, v.start.session)
  /-- After the listing the export is executed once, with all tokens of the visits. -/
  exported : visits.flatMap Visit.tokens ≠ [] → ∃ session ids,
    events.filterMap Event.start? =
      visits.map (fun v => (source.listing, v.start.session)) ++ [(script, session)] ∧
    session.bag.get? "ids" = some (.list (ids.map .scalar)) ∧
    FirstOccurrences (visits.flatMap Visit.tokens) ids

section Exports

variable {source : Source} {around : Surroundings} {script : Script} {p listed : Progress}
  {found : ResultList}

/-- What a listing that is read for tokens finds. -/
theorem firstOccurrences_of_trail {more : Nat} {visits : List Visit}
    (h : Trail source around .tokens p .empty more visits found listed) :
    FirstOccurrences (visits.flatMap Visit.tokens) (found.items.filterMap (·.token)) := by
  obtain ⟨ids, hpushed, honce⟩ := firstOccurrences_of_push source (visits.flatMap Visit.tokens)
  rw [h.found_eq, funext (Visit.harvest_tokens source), ← List.map_flatMap, hpushed]
  simpa [bare, Function.comp_def] using honce

theorem listingThenExport_of_error {fault : Fault} (hexporting : source.exporting = some script)
    (hlisting : listing source around .tokens p = (.error fault, listed)) :
    listingThenExport source around p = (.error fault, listed) := by
  simp only [listingThenExport, hexporting, bind_apply, hlisting]

/-- Without tokens nothing is exported. -/
theorem listingThenExport_of_nil (hexporting : source.exporting = some script)
    (hlisting : listing source around .tokens p = (.ok found, listed))
    (htokens : found.items.filterMap (·.token) = []) :
    listingThenExport source around p = (.ok .empty, listed) := by
  simp only [listingThenExport, hexporting, bind_apply, hlisting, htokens]
  rfl

/-- Tokens are exported in one execution. -/
theorem listingThenExport_of_cons (hexporting : source.exporting = some script)
    (hlisting : listing source around .tokens p = (.ok found, listed))
    (htokens : found.items.filterMap (·.token) ≠ []) :
    (listingThenExport source around p).2.crawler.world =
      (execute source.engine around script
        ⟨listed.session.setProperty "ids"
          (.list ((found.items.filterMap (·.token)).map .scalar)), listed.crawler.world⟩).2.world := by
  have hset (v : Value) : setProperty "ids" v listed =
      (Except.ok (), ⟨listed.session.setProperty "ids" v, listed.crawler⟩) := rfl
  simp only [listingThenExport, hexporting, bind_apply, hlisting]
  rw [if_neg (by simpa using htokens)]
  simp only [bind_apply, hset]
  generalize listed.session.setProperty "ids" _ = session
  rcases hexecute : execute source.engine around script ⟨session, listed.crawler.world⟩ with
    ⟨fault | v, r⟩
  · rw [runScript_of_error hexecute]
  · rw [runScript_of_ok hexecute]
    rfl

/-- A listing that is read for tokens without a fault is followed by the export of its tokens. -/
theorem listingThenExport_exports (hexporting : source.exporting = some script)
    (hlisting : listing source around .tokens p = (.ok found, listed)) :
    ∃ visits events,
      (listingThenExport source around p).2.crawler.world.history =
        p.crawler.world.history ++ events ∧
      TwoStepCrawl source around script ⟨p.session, p.crawler.world⟩ visits listed events := by
  obtain ⟨visits, htrail⟩ := (triple_trail _ _ _).of_ok rfl hlisting
  obtain ⟨events, hevents, hstarts, -⟩ := htrail.history
  have honce := firstOccurrences_of_trail htrail
  have hlength : visits.length ≤ max 1 source.settings.maxPages := htrail.length_le.trans (by omega)
  have hstopped : listed.crawler.isHalted = true ∨ source.settings.maxPages ≤ visits.length ∨
      ∃ v ∈ visits.getLast?, v.next? = none := by
    obtain hhalted | ⟨v, hv, hnone | hmore | ⟨⟨⟩, -⟩⟩ := htrail.last_page
    · exact .inl hhalted
    · exact .inr (.inr ⟨v, hv, hnone⟩)
    · exact .inr (.inl (by omega))
  by_cases htokens : found.items.filterMap (·.token) = []
  · refine ⟨visits, events, ?_, htrail.executed, hlength, htrail.first, htrail.followed,
      hstopped, fun _ => hstarts, fun hsome => absurd (honce.eq_nil_iff.mp htokens) hsome⟩
    rw [listingThenExport_of_nil hexporting hlisting htokens]
    exact hevents
  · let session := listed.session.setProperty "ids"
      (.list ((found.items.filterMap (·.token)).map .scalar))
    obtain ⟨during, hduring, hbegun, -⟩ :=
      history_execute source.engine around script ⟨session, listed.crawler.world⟩
    refine ⟨visits, events ++ during, ?_, htrail.executed, hlength, htrail.first, htrail.followed,
      hstopped, fun hnone => absurd (honce.eq_nil_iff.mpr hnone) htokens,
      fun _ => ⟨session, _, ?_, SortedMap.get?_insert _ _ _, honce⟩⟩
    · rw [listingThenExport_of_cons hexporting hlisting htokens, hduring, ← List.append_assoc,
        ← hevents]
    · rw [List.filterMap_append, hstarts, hbegun]

end Exports

/-- A two-step crawl whose listing does not fault exports each token of the pages that it visits
exactly once, in one execution, and executes nothing more if there is none. -/
theorem tokens_exported_once (source : Source) (around : Surroundings) (q : Query) (c : Crawler)
    {script : Script} {found : ResultList} {listed : Progress}
    (hkind : source.settings.kind = .twoStep) (hexporting : source.exporting = some script)
    (hlisting : listing source around .tokens ⟨sessionFor source q, c⟩ = (.ok found, listed)) :
    ∃ visits events,
      (crawl source around q c).2.world.history = c.world.history ++ events ∧
      TwoStepCrawl source around script ⟨sessionFor source q, c.world⟩ visits listed events := by
  obtain ⟨visits, events, hevents, hcrawl⟩ := listingThenExport_exports hexporting hlisting
  refine ⟨visits, events, ?_, hcrawl⟩
  rw [crawl, hkind]
  exact hevents

/-- A record whose token and link to the next page are the start of the source, which wants no
results. -/
def registry : Source where
  settings := ⟨"registry", "1", .wholeQuery, .twoStep, 2, 8, 3, some 0, none, none, true⟩
  engine := .default
  listing := ⟨[.document "url", .parse (["details", "nextpage"].map fun key =>
    .mk .find ((SortedMap.empty.insert "key" key).insert "pattern" "1") [])]⟩
  exporting := some ⟨[.save]⟩
  details := none
  filter := Filter.everything
  converter := Query.formText
  mapper := entryOf

/-- Both pages that are allowed are visited, and the token that both of them hold is exported. -/
theorem tokens_exported_once_registry :
    registry.settings.kind = .twoStep ∧ registry.exporting = some ⟨[.save]⟩ ∧
      ∃ found listed visits events,
        listing registry calm .tokens ⟨sessionFor registry (.term "trees"), .initial⟩ =
          (.ok found, listed) ∧
        (crawl registry calm (.term "trees") .initial).2.world.history = events ∧
        (events.filterMap Event.start?).length = 3 ∧ visits.flatMap Visit.tokens ≠ [] ∧
        TwoStepCrawl registry calm ⟨[.save]⟩ ⟨sessionFor registry (.term "trees"), .initial [host]⟩
          visits listed events := by
  refine ⟨rfl, rfl, ?_⟩
  have hrun : (fun answer : Except Fault ResultList × Crawler =>
      (answer.1.isOk, (answer.2.world.history.filterMap Event.start?).length))
        (crawl registry calm (.term "trees") .initial) = (true, 3) := by cbv
  obtain ⟨hok, hstarts⟩ := Prod.mk.inj hrun
  rcases hlisting : listing registry calm .tokens
    ⟨sessionFor registry (.term "trees"), .initial⟩ with ⟨fault | found, listed⟩
  · have hcrawl : (crawl registry calm (.term "trees") .initial).1 = .error fault :=
      congrArg Prod.fst (listingThenExport_of_error rfl hlisting)
    rw [hcrawl] at hok
    cases hok
  · obtain ⟨visits, events, hevents, hcrawl⟩ :=
      tokens_exported_once registry calm (.term "trees") .initial rfl rfl hlisting
    have hhistory : (crawl registry calm (.term "trees") .initial).2.world.history = events :=
      hevents
    rw [hhistory] at hstarts
    refine ⟨found, listed, visits, events, rfl, hhistory, hstarts, fun hnone => ?_, hcrawl⟩
    -- Three executions are more than the pages that are allowed.
    have hpages : visits.length ≤ 2 := hcrawl.few_pages
    rw [hcrawl.unexported hnone, List.length_map] at hstarts
    omega

end Harvest.Crawl
