import Harvest.Crawl.Details
import Harvest.Proofs.Script.Worlds

/-!
What crawlers keep.

A crawler polls its token, runs scripts, keeps cookies and settles faults, and whatever else it does
changes nothing but its cache. Hence a property that these four keep is kept by every call. A script
is run only while the crawler is not halted, or right after an execution without a fault; a property
need not be kept by other runs. Between a fault and its settlement another property may stand in.
-/

namespace Harvest.Crawl

open Harvest.Catalog Harvest.Rule Harvest.Script

def Crawler.settle (c : Crawler) (fault : Fault) : Crawler :=
  if fault.isFatal then c.halt fault.reason else c

def missingExport (source : Source) : Fault :=
  .fatal ("two-step wrapper '" ++ source.settings.source ++ "' has no export script")

/-- What the parts of a crawl keep: a property of crawlers, and one of faults and crawlers where a
fault ended the work. -/
structure Lasting (source : Source) (around : Surroundings) (P : Crawler → Prop)
    (E : Fault → Crawler → Prop) : Prop where
  poll : ∀ c, P c → P (c.poll around).2
  run : ∀ script session c, P c → (c.isHalted = false ∨ c.failures = 0) →
    match runScript source around script ⟨session, c⟩ with
    | (.ok _, p) => P p.crawler
    | (.error fault, p) => E fault p.crawler
  cookies : ∀ c cookies, P c → P { c with cookies := cookies }
  cookiesAfter : ∀ fault c cookies, E fault c → E fault { c with cookies := cookies }
  missing : source.settings.kind = .twoStep → source.exporting = none →
    ∀ c, P c → E (missingExport source) c

abbrev KeepsCrawler {α : Type} (P : Crawler → Prop) (E : Fault → Crawler → Prop)
    (x : Crawling α) : Prop :=
  Triple (fun p : Progress => P p.crawler) x (fun _ p => P p.crawler) fun fault p => E fault p.crawler

abbrev KeepsAnswer {α : Type} (P : Crawler → Prop) (E : Fault → Crawler → Prop)
    (x : Crawler.Action α) : Prop :=
  Triple P x (fun _ => P) E

/-- What is kept by single crawls, and when the crawler asks whether it is halted. -/
structure Serving (source : Source) (around : Surroundings) (P : Crawler → Prop)
    (E : Fault → Crawler → Prop) : Prop where
  poll : ∀ c, P c → P (c.poll around).2
  crawl : ∀ q, KeepsAnswer P E (crawl source around q)

namespace Serving

variable {source : Source} {around : Surroundings} {P : Crawler → Prop} {E : Fault → Crawler → Prop}
  (h : Serving source around P E)
include h

theorem crawlEach (results : ResultList) (qs : List Query) :
    KeepsAnswer P E (crawlEach source around results qs) := by
  induction qs generalizing results with
  | nil => exact triple_return
  | cons q qs ih =>
      unfold Crawl.crawlEach
      refine Triple.bind triple_get fun c => ?_
      rintro _ ⟨rfl, hc⟩
      have hpoll := h.poll c hc
      generalize c.poll around = polled at hpoll ⊢
      have hset : KeepsAnswer P E (set polled.2 : Crawler.Action PUnit) := triple_set hpoll
      have hrest : KeepsAnswer P E (do
          if polled.1 then return results
          let more ← Crawl.crawl source around q
          Crawl.crawlEach source around (results.merge more) qs) := by
        split
        · exact triple_return
        · exact Triple.bind (h.crawl q) fun more => ih _
      exact Triple.bind hset (fun _ => hrest) c hc

theorem process (q : Query) : KeepsAnswer P E (process source around q) := by
  unfold Crawl.process
  split
  · exact h.crawl q
  · exact h.crawlEach _ _

end Serving

section Parts

variable {source : Source} {around : Surroundings} {P : Crawler → Prop} {E : Fault → Crawler → Prop}

/-- A script without a fault starts the count anew. -/
theorem runScript_of_ok {script : Script} {c : Progress} {v : Value} {r : Run}
    (h : execute source.engine around script ⟨c.session, c.crawler.world⟩ = (.ok v, r)) :
    runScript source around script c =
      (.ok v, ⟨r.session, { c.crawler with failures := 0, world := r.world }⟩) := by
  simp only [runScript, h]

/-- A fault counts, and beyond the limit it becomes fatal. -/
theorem runScript_of_error {script : Script} {c : Progress} {fault : Fault} {r : Run}
    (h : execute source.engine around script ⟨c.session, c.crawler.world⟩ = (.error fault, r)) :
    runScript source around script c =
      (.error (if source.settings.maxFailures < c.crawler.failures + 1 then fault.escalate else fault),
        ⟨r.session, { c.crawler with failures := c.crawler.failures + 1, world := r.world }⟩) := by
  simp only [runScript, h]

theorem keepsCrawler_setProperty (name : String) (value : Value) :
    KeepsCrawler P E (setProperty name value) :=
  triple_modify fun _ h => h

theorem keepsCrawler_takeNextPage (records : List Record) :
    KeepsCrawler P E (takeNextPage records) := fun _ h => h

variable (h : Lasting source around P E)
include h

/-- After the token was asked it is known whether the crawler is halted. -/
theorem triple_isHalted (G : Nat → Prop) {E : Fault → Progress → Prop} :
    Triple (fun p : Progress => P p.crawler ∧ G p.crawler.failures) (isHalted around)
      (fun halted p => (P p.crawler ∧ G p.crawler.failures) ∧ p.crawler.isHalted = halted) E :=
  fun p hp => ⟨⟨h.poll p.crawler hp.1, hp.2⟩, rfl⟩

theorem triple_runScript (script : Script) :
    Triple (fun p : Progress => P p.crawler ∧ (p.crawler.isHalted = false ∨ p.crawler.failures = 0))
      (runScript source around script) (fun _ p => P p.crawler ∧ p.crawler.failures = 0)
      fun fault p => E fault p.crawler := by
  intro p hp
  have hrun := h.run script p.session p.crawler hp.1 hp.2
  rcases hexecute : execute source.engine around script ⟨p.session, p.crawler.world⟩ with
    ⟨fault | v, r⟩
  · rw [runScript_of_error hexecute] at hrun ⊢
    exact hrun
  · rw [runScript_of_ok hexecute] at hrun ⊢
    exact ⟨hrun, rfl⟩

/-- Where pages have given results, the last execution had no fault. -/
theorem triple_pages (harvesting : Harvesting) (results : ResultList) (more : Nat) :
    Triple (fun p : Progress => P p.crawler ∧ (results.items ≠ [] → p.crawler.failures = 0))
      (pages source around harvesting results more)
      (fun found p => P p.crawler ∧ (found.items ≠ [] → p.crawler.failures = 0))
      fun fault p => E fault p.crawler := by
  induction more using Nat.strongRecOn generalizing results with
  | _ more ih =>
      unfold pages
      refine Triple.bind (triple_isHalted h fun failures => results.items ≠ [] → failures = 0)
        fun halted => ?_
      cases halted with
      | true => exact triple_pure fun p hp => hp.1
      | false =>
          refine Triple.bind ((triple_runScript h source.listing).imp
            (fun p hp => ⟨hp.1.1, .inl hp.2⟩) (fun _ _ hp => hp) fun _ _ hp => hp) fun v => ?_
          -- From here on nothing but the session changes before the next page.
          refine Triple.bind (keepsCrawler_takeNextPage (P := fun c => P c ∧ c.failures = 0) _)
            fun next => ?_
          have hreturn (found : ResultList) :
              Triple (fun p : Progress => P p.crawler ∧ p.crawler.failures = 0)
                (pure found : Crawling ResultList)
                (fun found p => P p.crawler ∧ (found.items ≠ [] → p.crawler.failures = 0))
                fun fault p => E fault p.crawler :=
            triple_pure fun p hp => ⟨hp.1, fun _ => hp.2⟩
          split
          · exact hreturn _
          · split
            · exact hreturn _
            · split
              · exact hreturn _
              · next more =>
                refine Triple.bind (keepsCrawler_setProperty (P := fun c => P c ∧ c.failures = 0) _ _)
                  fun _ => ?_
                exact (ih more (Nat.lt_succ_self more) _).imp (fun p hp => ⟨hp.1, fun _ => hp.2⟩)
                  (fun _ _ hp => hp) fun _ _ hp => hp

theorem triple_listing (harvesting : Harvesting) :
    Triple (fun p : Progress => P p.crawler) (listing source around harvesting)
      (fun found p => P p.crawler ∧ (found.items ≠ [] → p.crawler.failures = 0))
      fun fault p => E fault p.crawler :=
  (triple_pages h harvesting .empty _).imp (fun _ hp => ⟨hp, fun hne => absurd rfl hne⟩)
    (fun _ _ hp => hp) fun _ _ hp => hp

theorem keepsCrawler_listingThenExport (hkind : source.settings.kind = .twoStep) :
    KeepsCrawler P E (listingThenExport source around) := by
  unfold listingThenExport
  split
  · next hnone => exact triple_throw fun p hp => h.missing hkind hnone p.crawler hp
  · next script _ =>
    refine Triple.bind (triple_listing h .tokens) fun found => ?_
    dsimp only
    split
    · exact triple_pure fun p hp => hp.1
    · next htokens =>
      -- Tokens come from results, so the last execution before the export had no fault.
      have hfound : found.items ≠ [] := by
        intro hnil
        simp [hnil] at htokens
      refine Triple.bind ((keepsCrawler_setProperty (P := fun c => P c ∧ c.failures = 0) _ _).imp
        (fun p hp => ⟨hp.1, hp.2 hfound⟩) (fun _ _ hp => hp) fun _ _ hp => hp) fun _ => ?_
      refine Triple.bind ((triple_runScript h script).imp (fun p hp => ⟨hp.1, .inr hp.2⟩)
        (fun _ _ hp => hp) fun _ _ hp => hp) fun v => triple_pure fun p hp => hp.1

/-- Cookies are kept whatever the work ends in. -/
theorem keepsAnswer_inSession {α : Type} (session : Session) {work : Crawling α}
    (hwork : KeepsCrawler P E work) : KeepsAnswer P E (inSession session work) := by
  intro c hc
  unfold inSession
  rcases hend : work ⟨session, c⟩ with ⟨fault | results, p⟩
  · exact h.cookiesAfter _ _ _ (hwork.of_error hc hend)
  · exact h.cookies _ _ (hwork.of_ok hc hend)

theorem keepsAnswer_crawl (q : Query) : KeepsAnswer P E (crawl source around q) := by
  unfold crawl
  split
  · exact keepsAnswer_inSession h _ ((triple_listing h .records).imp (fun _ hp => hp)
      (fun _ _ hp => hp.1) fun _ _ hp => hp)
  · next hkind => exact keepsAnswer_inSession h _ (keepsCrawler_listingThenExport h hkind)

theorem Lasting.serving : Serving source around P E := ⟨h.poll, keepsAnswer_crawl h⟩

theorem keepsAnswer_process (q : Query) : KeepsAnswer P E (process source around q) :=
  h.serving.process q

end Parts

/-- A property of the token and the history that executions keep, at their beginning and their end
too, lasts through a crawl. -/
theorem lasting_of_steady {source : Source} {around : Surroundings} {W : World → Prop}
    (hsteady : World.Steady around W)
    (hbegan : ∀ w script session, W w → W (w.record (.began script session)))
    (hended : ∀ w outcome, W w → W (w.record (.ended outcome))) :
    Lasting source around (fun c => W c.world) fun _ c => W c.world where
  poll _ hc := hsteady.poll hc
  run script session c hc _ := by
    obtain ⟨w, hw, htoken, hhistory, -⟩ :=
      execute_keeps source.engine hsteady script ⟨session, c.world⟩ (hbegan _ _ _ hc)
    have hend := hsteady.same (w.record (.ended _)) _ htoken hhistory (hended _ _ hw)
    rcases hexecute : execute source.engine around script ⟨session, c.world⟩ with ⟨fault | v, r⟩ <;>
      rw [hexecute] at hend
    · rw [runScript_of_error hexecute]
      exact hend
    · rw [runScript_of_ok hexecute]
      exact hend
  cookies _ _ hc := hc
  cookiesAfter _ _ _ hc := hc
  missing _ _ _ hc := hc

inductive Call
  | ask (q : Query) (useCache : Bool)
  | retrieve (q : Query)
  | details (results : ResultList)
  | halt (reason : String)

def Crawler.perform (source : Source) (around : Surroundings) (c : Crawler) : Call → Crawler
  | .ask q useCache => (Crawl.ask source around q useCache c).2
  | .retrieve q => (Crawl.retrieve source around q c).2
  | .details results => (fetchDetails source around results c).2
  | .halt reason => c.halt reason

def Crawler.after (source : Source) (around : Surroundings) (calls : List Call) : Crawler :=
  calls.foldl (Crawler.perform source around) .initial

section Calls

variable {source : Source} {around : Surroundings} {P : Crawler → Prop} {E : Fault → Crawler → Prop}

theorem retrieve_eq (q : Query) (c : Crawler) :
    retrieve source around q c = match process source around q c with
      | (.ok results, c) => (some results, c)
      | (.error fault, c) => (none, c.settle fault) := rfl

theorem Serving.retrieve (h : Serving source around P E)
    (hsettle : ∀ fault c, E fault c → P (c.settle fault)) (q : Query) (c : Crawler) (hc : P c) :
    P (retrieve source around q c).2 := by
  have hkeeps := h.process q
  rw [retrieve_eq]
  rcases hprocess : Crawl.process source around q c with ⟨fault | results, c'⟩
  · exact hsettle _ _ (hkeeps.of_error hc hprocess)
  · exact hkeeps.of_ok hc hprocess

theorem Serving.ask (h : Serving source around P E)
    (hsettle : ∀ fault c, E fault c → P (c.settle fault))
    (hcache : ∀ c cache, P c → P { c with cache := cache }) (q : Query) (useCache : Bool)
    (c : Crawler) (hc : P c) : P (ask source around q useCache c).2 := by
  unfold Crawl.ask
  have hpoll := h.poll c hc
  generalize c.poll around = polled at hpoll ⊢
  obtain ⟨halted, c⟩ := polled
  have hretrieve := h.retrieve hsettle q c hpoll
  dsimp only
  split
  · exact hpoll
  · split
    · exact hpoll
    · split
      · next heq => rw [heq] at hretrieve; exact hretrieve
      · next heq =>
        rw [heq] at hretrieve
        split
        · exact hcache _ _ hretrieve
        · exact hretrieve

variable (h : Lasting source around P E) (hsettle : ∀ fault c, E fault c → P (c.settle fault))
  (hcache : ∀ c cache, P c → P { c with cache := cache })
include h hsettle

theorem retrieve_keeps (q : Query) (c : Crawler) (hc : P c) :
    P (retrieve source around q c).2 :=
  h.serving.retrieve hsettle q c hc

theorem fetchDetail_keeps (script : Script) (completed : Nat) (r : Result) (token : String)
    (address : Url) (c : Crawler) (hc : P c) (hgoing : c.isHalted = false) :
    P (fetchDetail source around script completed r token address c).2 := by
  have hrun := h.run script (detailSession source c token address) c hc (.inl hgoing)
  unfold fetchDetail
  rcases hend : runScript source around script ⟨detailSession source c token address, c⟩ with
    ⟨fault | v, p⟩
  · rw [hend] at hrun
    have hsettled := hsettle _ _ hrun
    unfold Crawler.settle at hsettled
    dsimp only
    split
    · next hfatal =>
      rw [if_pos hfatal] at hsettled
      exact hsettled
    · next hfatal =>
      rw [if_neg hfatal] at hsettled
      exact hsettled
  · rw [hend] at hrun
    dsimp only
    split <;> exact hrun

theorem fetchEach_keeps (script : Script) (results : List Result) (completed : Nat) (c : Crawler)
    (hc : P c) : P (fetchEach source around script completed c results).2 := by
  induction results generalizing completed c with
  | nil => exact hc
  | cons r rest ih =>
      unfold fetchEach
      dsimp only
      split
      · exact ih completed c hc
      · have hpoll := h.poll c hc
        have hhalted : (c.poll around).2.isHalted = (c.poll around).1 := rfl
        generalize c.poll around = polled at hpoll hhalted ⊢
        obtain ⟨halted, c⟩ := polled
        dsimp only at hhalted ⊢
        split
        · exact hpoll
        · next hgoing =>
          split
          · exact ih completed c hpoll
          · next token address _ =>
            -- The token has just been asked, so the crawler is not halted when the script begins.
            have hdetail := fetchDetail_keeps h hsettle script completed r token address c hpoll
              (hhalted.trans (Bool.eq_false_iff.mpr hgoing))
            generalize fetchDetail source around script completed r token address c = result
              at hdetail ⊢
            obtain ⟨turn, c⟩ := result
            dsimp only
            split
            · exact ih turn.completed c hdetail
            · exact hdetail

theorem fetchDetails_keeps (results : ResultList) (c : Crawler) (hc : P c) :
    P (fetchDetails source around results c).2 := by
  unfold fetchDetails
  split
  · exact hc
  · exact fetchEach_keeps h hsettle _ _ 0 c hc

include hcache

theorem ask_keeps (q : Query) (useCache : Bool) (c : Crawler) (hc : P c) :
    P (ask source around q useCache c).2 :=
  h.serving.ask hsettle hcache q useCache c hc

theorem perform_keeps (call : Call) (c : Crawler)
    (hhalt : ∀ reason, call = .halt reason → P (c.halt reason)) (hc : P c) :
    P (c.perform source around call) := by
  cases call with
  | ask q useCache => exact ask_keeps h hsettle hcache q useCache c hc
  | retrieve q => exact retrieve_keeps h hsettle q c hc
  | details results => exact fetchDetails_keeps h hsettle results c hc
  | halt reason => exact hhalt reason rfl

/-- What the parts of a crawl keep, every run of calls keeps. -/
theorem after_keeps (calls : List Call)
    (hhalt : ∀ c reason, .halt reason ∈ calls → P c → P (c.halt reason)) (hinitial : P .initial) :
    P (.after source around calls) :=
  List.foldlRecOn calls _ hinitial fun c hc call hcall =>
    perform_keeps h hsettle hcache call c (fun reason heq => hhalt c reason (heq ▸ hcall) hc) hc

end Calls

end Harvest.Crawl
