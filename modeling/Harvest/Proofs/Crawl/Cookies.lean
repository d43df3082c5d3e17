import Harvest.Proofs.Crawl.Completion
import Harvest.Proofs.Crawl.Exporting
import Harvest.Proofs.Script.Bookkeeping

/-!
The cookies that a crawler keeps.

Every crawl has a session of its own, whose jar takes in cookies as they come, and hands this jar
over at its end, whatever that is. What the crawler keeps is told from all cookies that have been
handed over: one cookie for each name, in the order in which the names have come, and of each name
the latest one. The sessions in which details are fetched begin with what is kept and hand nothing
over.
-/

namespace Harvest.Crawl

open Harvest.Catalog Harvest.Rule Harvest.Script

section Jars

/-- A jar keeps one cookie for each name: the names in the order in which they have come first, and
of each name the cookie that has come last. -/
structure Jar (all kept : List String) : Prop where
  names : FirstOccurrences (all.map cookieName) (kept.map cookieName)
  latest : ∀ cookie ∈ kept,
    (all.filter fun other => cookieName other == cookieName cookie).getLast? = some cookie

variable {all kept : List String} {cookie : String}

theorem names_keepCookie (kept : List String) (cookie : String) :
    (keepCookie kept cookie).map cookieName =
      if cookieName cookie ∈ kept.map cookieName then kept.map cookieName
      else kept.map cookieName ++ [cookieName cookie] := by
  induction kept with
  | nil => rfl
  | cons k ks ih =>
      unfold keepCookie
      by_cases hname : cookieName k = cookieName cookie
      · simp [hname]
      · simp only [if_neg hname, List.map_cons, List.mem_cons, Ne.symm hname, false_or, ih]
        split <;> rfl

/-- A cookie is kept in place of the one with its name. -/
theorem mem_keepCookie (hnodup : (kept.map cookieName).Nodup) {other : String}
    (h : other ∈ keepCookie kept cookie) :
    other = cookie ∨ other ∈ kept ∧ cookieName other ≠ cookieName cookie := by
  induction kept with
  | nil => exact .inl (List.mem_singleton.mp h)
  | cons k ks ih =>
      obtain ⟨hk, hks⟩ := List.nodup_cons.mp hnodup
      unfold keepCookie at h
      split at h
      · next hname =>
        refine (List.mem_cons.mp h).imp_right fun hother => ⟨List.mem_cons_of_mem _ hother, ?_⟩
        intro hsame
        rw [hname, ← hsame] at hk
        exact hk (List.mem_map_of_mem hother)
      · next hname =>
        obtain rfl | hother := List.mem_cons.mp h
        · exact .inr ⟨List.mem_cons_self, hname⟩
        · exact (ih hks hother).imp_right fun hold => ⟨List.mem_cons_of_mem _ hold.1, hold.2⟩

namespace Jar

theorem empty : Jar [] [] := ⟨.nil, by simp⟩

theorem keepCookie (h : Jar all kept) (cookie : String) :
    Jar (all ++ [cookie]) (keepCookie kept cookie) where
  names := by
    rw [names_keepCookie, List.map_append, List.map_singleton]
    split
    · next hseen => exact h.names.seen hseen
    · next hunseen => exact h.names.unseen hunseen
  latest other hother := by
    rw [List.filter_append]
    obtain rfl | ⟨hother, hname⟩ := mem_keepCookie h.names.nodup hother
    · simp
    · have hlater : ([cookie].filter fun c => cookieName c == cookieName other) = [] := by
        simpa using Ne.symm hname
      rw [hlater, List.append_nil]
      exact h.latest other hother

theorem keepCookies (h : Jar all kept) (cookies : List String) :
    Jar (all ++ cookies) (keepCookies kept cookies) := by
  induction cookies generalizing all kept with
  | nil => rwa [List.append_nil]
  | cons cookie cookies ih =>
      rw [List.append_cons]
      exact ih (h.keepCookie cookie)

end Jar

/-- Blanks do not belong to a name, and the name may be empty. -/
example : keepCookies [] ["a=1; path", ";b=2", "c", " a =3", "=4"] = [" a =3", "=4", "c"] := by cbv

end Jars

section Received

/-- Whether cookies count behind an event: as the session says with which an execution begins, and
from the command on that lets them count. -/
def countsCookies (enabled : Bool) : Event → Bool
  | .began _ session => session.cookiesEnabled
  | e => enabled || e.enablesCookies

def receivedCookies : Bool → List Event → List String
  | _, [] => []
  | enabled, e :: events =>
    (if enabled then (e.success?.map (·.2.cookies)).getD [] else []) ++
      receivedCookies (countsCookies enabled e) events

/-- These cookies have been received, whether cookies counted before or not. -/
def Receives (events : List Event) (cookies : List String) : Prop :=
  ∀ enabled, receivedCookies enabled events = cookies

variable {events later : List Event} {cookies cookies' : List String}

theorem receivedCookies_append (enabled : Bool) (events later : List Event) :
    receivedCookies enabled (events ++ later) = receivedCookies enabled events ++
      receivedCookies (events.foldl countsCookies enabled) later := by
  induction events generalizing enabled with
  | nil => rfl
  | cons e events ih =>
      rw [List.cons_append, receivedCookies, ih, receivedCookies, List.append_assoc]
      rfl

/-- Within an execution the session's cookies count once they are enabled. -/
theorem receivedCookies_eq_keptCookies (enabled : Bool)
    (h : events.filterMap Event.start? = []) :
    receivedCookies enabled events = keptCookies enabled events := by
  induction events generalizing enabled with
  | nil => rfl
  | cons e events ih =>
      rw [List.filterMap_eq_nil_iff, List.forall_mem_cons, ← List.filterMap_eq_nil_iff] at h
      have hcounts : countsCookies enabled e = (enabled || e.enablesCookies) := by
        cases e with
        | began script session => cases h.1
        | _ => rfl
      rw [receivedCookies, keptCookies, hcounts, ih _ h.2]

namespace Receives

theorem nil : Receives [] [] := fun _ => rfl

theorem append (h : Receives events cookies) (hlater : Receives later cookies') :
    Receives (events ++ later) (cookies ++ cookies') := fun enabled => by
  rw [receivedCookies_append, h enabled, hlater _]

theorem of_halts (h : ∀ e ∈ events, e.isHalt = true) : Receives events [] := by
  intro enabled
  induction events generalizing enabled with
  | nil => rfl
  | cons e events ih =>
      obtain ⟨he, hevents⟩ := List.forall_mem_cons.mp h
      rw [receivedCookies, ih hevents, List.append_nil]
      cases e with
      | halted reason => exact ite_self []
      | _ => cases he

end Receives

/-- An execution begins with its own beginning, and no other one begins in it. -/
theorem events_execute (settings : Script.Settings) (around : Surroundings) (script : Script)
    (start : Run) :
    ∃ inside, (execute settings around script start).2.world.history =
        start.world.history ++ .began script start.session :: inside ∧
      inside.filterMap Event.start? = [] := by
  obtain ⟨w, ⟨during, hduring, hquiet⟩, -, hhistory, -⟩ := execute_keeps settings
    (World.steady_quiet (start.world.record (.began script start.session)).history) script start
    ⟨[], (List.append_nil _).symm, rfl, rfl⟩
  refine ⟨during ++ [.ended (execute settings around script start).1], ?_, ?_⟩
  · rw [hhistory, hduring, World.record, List.append_assoc, List.append_assoc]
    rfl
  · rw [List.filterMap_append, hquiet.1]
    rfl

/-- An execution adds to the jar of its session what is received in it. -/
theorem execute_receives (settings : Script.Settings) (around : Surroundings) (script : Script)
    (start : Run) :
    ∃ events cookies, (execute settings around script start).2.world.history =
        start.world.history ++ events ∧
      Receives events cookies ∧
      (execute settings around script start).2.session.cookies =
        start.session.cookies ++ cookies := by
  have hstart : Booked (.of start.session) start.world.history start :=
    .refl ⟨start.session.errors, rfl⟩
  obtain ⟨events, hevents, -, errors, hsession⟩ : Booked (.of start.session) start.world.history
      (execute settings around script start).2 := booked_execute script hstart
  obtain ⟨inside, hinside, hnone⟩ := events_execute settings around script start
  obtain rfl := List.append_cancel_left (hevents.symm.trans hinside)
  refine ⟨_, _, hevents, fun enabled => ?_, by rw [hsession]; exact Books.after_cookies⟩
  -- The beginning says whether cookies count, in the session and in the history alike.
  have hbegun : receivedCookies enabled (.began script start.session :: inside) =
      receivedCookies start.session.cookiesEnabled inside := by
    rw [receivedCookies]
    exact congrArg (· ++ _) (ite_self [])
  have hkept : keptCookies start.session.cookiesEnabled (.began script start.session :: inside) =
      keptCookies start.session.cookiesEnabled inside := by
    rw [keptCookies, show Event.enablesCookies (.began script start.session) = false from rfl,
      Bool.or_false]
    exact congrArg (· ++ _) (ite_self [])
  rw [hbegun, receivedCookies_eq_keptCookies _ hnone]
  exact hkept.symm

end Received

section Crawls

variable {source : Source} {around : Surroundings}

/-- What the work of a crawl keeps: asking, running scripts and changing properties, whatever a
script ends in. -/
structure Persistent (source : Source) (around : Surroundings) (P : Progress → Prop) : Prop where
  poll : ∀ p, P p → P { p with crawler := (p.crawler.poll around).2 }
  run : ∀ script p, P p → P (runScript source around script p).2
  properties : ∀ p bag, P p → P { p with session := { p.session with bag := bag } }

namespace Persistent

variable {P : Progress → Prop} (h : Persistent source around P)
include h

theorem isHalted : Triple P (Crawl.isHalted around) (fun _ => P) fun _ => P :=
  fun p hp => h.poll p hp

theorem runScript (script : Script) :
    Triple P (Crawl.runScript source around script) (fun _ => P) fun _ => P := by
  intro p hp
  have hrun := h.run script p hp
  rcases hend : Crawl.runScript source around script p with ⟨fault | v, p'⟩ <;> rw [hend] at hrun
  · exact hrun
  · exact hrun

theorem setProperty (name : String) (value : Value) :
    Triple P (Crawl.setProperty name value) (fun _ => P) fun _ => P :=
  triple_modify fun p hp => h.properties p _ hp

theorem takeNextPage (records : List Record) :
    Triple P (Crawl.takeNextPage records) (fun _ => P) fun _ => P :=
  fun p hp => h.properties p _ hp

theorem pages (harvesting : Harvesting) (results : ResultList) (more : Nat) :
    Triple P (Crawl.pages source around harvesting results more) (fun _ => P) fun _ => P := by
  induction more using Nat.strongRecOn generalizing results with
  | _ more ih =>
      unfold Crawl.pages
      refine Triple.bind h.isHalted fun halted => ?_
      split
      · exact triple_return
      · refine Triple.bind (h.runScript _) fun v => ?_
        refine Triple.bind (h.takeNextPage _) fun next => ?_
        split
        · exact triple_return
        · split
          · exact triple_return
          · split
            · exact triple_return
            · next more =>
              exact Triple.bind (h.setProperty _ _) fun _ => ih more (Nat.lt_succ_self more) _

theorem listingThenExport :
    Triple P (Crawl.listingThenExport source around) (fun _ => P) fun _ => P := by
  unfold Crawl.listingThenExport
  split
  · exact triple_throw fun _ hp => hp
  · refine Triple.bind (h.pages _ _ _) fun found => ?_
    dsimp only
    split
    · exact triple_return
    · refine Triple.bind (h.setProperty _ _) fun _ => ?_
      exact Triple.bind (h.runScript _) fun v => triple_return

end Persistent

variable (source around)

def crawlWork : Crawling ResultList :=
  match source.settings.kind with
  | .paged => listing source around .records
  | .twoStep => listingThenExport source around

variable {source around}

theorem crawl_eq (q : Query) :
    crawl source around q = inSession (sessionFor source q) (crawlWork source around) := by
  unfold crawl crawlWork
  cases source.settings.kind <;> rfl

/-- A crawl under way leaves the crawler's cookies as they were at its start, and its own jar holds
what it has received. -/
structure Collecting (start : Crawler) (p : Progress) : Prop where
  kept : p.crawler.cookies = start.cookies
  received : ∃ events, p.crawler.world.history = start.world.history ++ events ∧
    Receives events p.session.cookies

theorem persistent_collecting (start : Crawler) : Persistent source around (Collecting start) where
  poll p h := by
    obtain ⟨events, hevents, hreceives⟩ := h.received
    obtain ⟨halts, hhistory, hhalts⟩ := p.crawler.world.halts_poll around
    refine ⟨h.kept, events ++ halts, ?_, ?_⟩
    · rw [← List.append_assoc, ← hevents]
      exact hhistory
    · simpa using hreceives.append (.of_halts hhalts)
  run script p h := by
    obtain ⟨events, hevents, hreceives⟩ := h.received
    obtain ⟨later, cookies, hlater, hmore, hjar⟩ :=
      execute_receives source.engine around script ⟨p.session, p.crawler.world⟩
    have hcollecting : ∃ events, (execute source.engine around script
          ⟨p.session, p.crawler.world⟩).2.world.history = start.world.history ++ events ∧
        Receives events
          (execute source.engine around script ⟨p.session, p.crawler.world⟩).2.session.cookies := by
      refine ⟨events ++ later, ?_, hjar ▸ hreceives.append hmore⟩
      rw [← List.append_assoc, ← hevents]
      exact hlater
    rcases hexecute : execute source.engine around script ⟨p.session, p.crawler.world⟩ with
      ⟨fault | v, r⟩ <;> rw [hexecute] at hcollecting
    · rw [runScript_of_error hexecute]
      exact ⟨h.kept, hcollecting⟩
    · rw [runScript_of_ok hexecute]
      exact ⟨h.kept, hcollecting⟩
  properties p bag h := ⟨h.kept, h.received⟩

/-- The work of a crawl begins with an empty jar. -/
theorem cookies_sessionFor (q : Query) : (sessionFor source q).cookies = [] := by
  unfold sessionFor
  cases source.settings.maxResults <;> cases source.settings.years <;> rfl

variable (source around)

theorem collecting_crawlWork (q : Query) (c : Crawler) :
    Collecting c (crawlWork source around ⟨sessionFor source q, c⟩).2 := by
  have hpersistent : Persistent source around (Collecting c) := persistent_collecting c
  have hwork : Triple (Collecting c) (crawlWork source around) (fun _ => Collecting c)
      fun _ => Collecting c := by
    unfold crawlWork
    split
    · exact hpersistent.pages _ _ _
    · exact hpersistent.listingThenExport
  have hstart : Collecting c ⟨sessionFor source q, c⟩ :=
    ⟨rfl, [], (List.append_nil _).symm, cookies_sessionFor q ▸ .nil⟩
  rcases hend : crawlWork source around ⟨sessionFor source q, c⟩ with ⟨fault | results, p⟩
  · exact hwork.of_error hstart hend
  · exact hwork.of_ok hstart hend

def HandedOver (start stop : Crawler) : Prop :=
  ∃ events cookies, stop.world.history = start.world.history ++ events ∧ Receives events cookies ∧
    stop.cookies = keepCookies start.cookies cookies

namespace HandedOver

variable {c c' c'' : Crawler}

theorem refl (c : Crawler) : HandedOver c c := ⟨[], [], (List.append_nil _).symm, .nil, rfl⟩

theorem trans (h : HandedOver c c') (h' : HandedOver c' c'') : HandedOver c c'' := by
  obtain ⟨events, cookies, hevents, hreceives, hkept⟩ := h
  obtain ⟨later, cookies', hlater, hreceives', hkept'⟩ := h'
  refine ⟨events ++ later, cookies ++ cookies', ?_, hreceives.append hreceives', ?_⟩
  · rw [hlater, hevents, List.append_assoc]
  · rw [hkept', hkept]
    exact List.foldl_append.symm

/-- Nothing is handed over where nothing but halts happens. -/
theorem of_halts (hcookies : c'.cookies = c.cookies) {halts : List Event}
    (hhistory : c'.world.history = c.world.history ++ halts)
    (hhalts : ∀ e ∈ halts, e.isHalt = true) : HandedOver c c' :=
  ⟨halts, [], hhistory, .of_halts hhalts, hcookies⟩

end HandedOver

/-- A crawl hands over the jar of its session, whatever it ends in. -/
theorem cookies_crawl (q : Query) (c : Crawler) : (crawl source around q c).2.cookies =
    keepCookies c.cookies (crawlWork source around ⟨sessionFor source q, c⟩).2.session.cookies := by
  rw [crawl_eq, ← (collecting_crawlWork source around q c).kept]
  rfl

theorem receives_crawl (q : Query) (c : Crawler) :
    ∃ events, (crawl source around q c).2.world.history = c.world.history ++ events ∧
      Receives events (crawlWork source around ⟨sessionFor source q, c⟩).2.session.cookies := by
  rw [crawl_eq]
  exact (collecting_crawlWork source around q c).received

theorem handedOver_crawl (q : Query) (c : Crawler) :
    HandedOver c (crawl source around q c).2 := by
  obtain ⟨events, hevents, hreceives⟩ := receives_crawl source around q c
  exact ⟨events, _, hevents, hreceives, cookies_crawl source around q c⟩

variable {source around}

theorem handedOver_poll (c : Crawler) : HandedOver c (c.poll around).2 := by
  obtain ⟨halts, hhistory, hhalts⟩ := c.world.halts_poll around
  exact .of_halts rfl hhistory hhalts

theorem handedOver_halt (c : Crawler) (reason : String) : HandedOver c (c.halt reason) := by
  obtain ⟨halts, hhistory, hhalts⟩ := c.world.history_halt reason
  exact .of_halts rfl hhistory hhalts

theorem handedOver_settle (c : Crawler) (fault : Fault) : HandedOver c (c.settle fault) := by
  unfold Crawler.settle
  split
  · exact handedOver_halt c fault.reason
  · exact .refl c

/-- Every crawl hands over what it has received, whatever it ends in. -/
theorem serving_handedOver (start : Crawler) :
    Serving source around (HandedOver start) fun _ => HandedOver start where
  poll c h := h.trans (handedOver_poll c)
  crawl q c h := by
    have hcrawl := h.trans (handedOver_crawl source around q c)
    rcases hend : crawl source around q c with ⟨fault | results, c'⟩ <;> rw [hend] at hcrawl
    · exact hcrawl
    · exact hcrawl

theorem handedOver_crawlEach (results : ResultList) (qs : List Query) (c : Crawler) :
    HandedOver c (crawlEach source around results qs c).2 := by
  have hserving : Serving source around (HandedOver c) fun _ => HandedOver c := serving_handedOver c
  rcases hend : crawlEach source around results qs c with ⟨fault | found, c'⟩
  · exact (hserving.crawlEach results qs).of_error (.refl c) hend
  · exact (hserving.crawlEach results qs).of_ok (.refl c) hend

end Crawls

section Details

variable {source : Source} {around : Surroundings} {script : Script}

/-- A session that begins with what is kept, which counts, if cookies are used again, and otherwise
with no cookies, which do not count. -/
structure BeginsWith (source : Source) (kept : List String) (s : Session) : Prop where
  enabled : s.cookiesEnabled = source.settings.reuseCookies
  cookies : s.cookies = if source.settings.reuseCookies then kept else []

theorem beginsWith_detailSession (c : Crawler) (token : String) (address : Url) :
    BeginsWith source c.cookies (detailSession source c token address) := by
  unfold detailSession
  constructor <;> cases source.settings.reuseCookies <;> rfl

theorem Inquires.beginsWith {c : Crawler} {r : Result} {q : Inquiry}
    (h : Inquires source around script c r q) : BeginsWith source c.cookies q.start.session := by
  obtain ⟨token, address, -, -, hstart⟩ := h.start
  rw [hstart]
  exact beginsWith_detailSession (c.poll around).2 token address

theorem Crawler.cookies_settle (c : Crawler) (fault : Fault) :
    (c.settle fault).cookies = c.cookies := by
  unfold Crawler.settle
  split <;> rfl

/-- In the turn of a result nothing is handed over. -/
theorem Handled.cookies_left {x : Handling} (h : Handled source around script x) :
    x.left.cookies = x.crawler.cookies := by
  cases h with
  | faulted _ _ => exact Crawler.cookies_settle _ _
  | _ => rfl

namespace Course

variable {c c' : Crawler} {turns : List Handling}

theorem cookies_stop (h : Course source around script c turns c') : c'.cookies = c.cookies := by
  induction h with
  | nil => rfl
  | cons hturn _ ih => exact ih.trans hturn.cookies_left

theorem cookies_turn (h : Course source around script c turns c') :
    ∀ x ∈ turns, x.crawler.cookies = c.cookies := by
  induction h with
  | nil => simp
  | cons hturn _ ih =>
      exact List.forall_mem_cons.mpr ⟨rfl, fun x hx => (ih x hx).trans hturn.cookies_left⟩

/-- Every execution of the course begins with what is kept at its start. -/
theorem beginsWith (h : Course source around script c turns c') :
    ∃ events, c'.world.history = c.world.history ++ events ∧
      ∀ begun ∈ events.filterMap Event.start?, BeginsWith source c.cookies begun.2 := by
  obtain ⟨events, hevents, hstarts, -⟩ := h.history
  refine ⟨events, hevents, fun begun hbegun => ?_⟩
  rw [hstarts] at hbegun
  obtain ⟨q, hq, rfl⟩ := List.mem_map.mp hbegun
  obtain ⟨x, hx, hinquiry⟩ := List.mem_filterMap.mp hq
  rw [← h.cookies_turn x hx]
  exact ((h.handled x hx).inquires q hinquiry).beginsWith

end Course

/-- The crawler keeps its cookies while details are fetched, in sessions that begin with them. -/
theorem beginsWith_fetchDetails (results : ResultList) (c : Crawler) :
    (fetchDetails source around results c).2.cookies = c.cookies ∧
      ∃ events, (fetchDetails source around results c).2.world.history =
          c.world.history ++ events ∧
        ∀ begun ∈ events.filterMap Event.start?, BeginsWith source c.cookies begun.2 := by
  unfold fetchDetails
  split
  · exact ⟨rfl, [], (List.append_nil _).symm, by simp⟩
  · next script _ =>
    obtain ⟨turns, hturns⟩ : ∃ turns, Handles source around script c 0 results.items turns
        (fetchEach source around script 0 c results.items) := fetchEach_handles results.items 0 c
    exact ⟨hturns.course.cookies_stop, hturns.course.beginsWith⟩

end Details

section Calls

def receivedUntil (start stop : Crawler) : List String :=
  receivedCookies false (stop.world.history.drop start.world.history.length)

variable (source : Source) (around : Surroundings)

/-- The cookies that a call hands over: those that its crawls receive. -/
def Crawler.handed (c : Crawler) (call : Call) : List String :=
  match call with
  | .ask _ _ | .retrieve _ => receivedUntil c (c.perform source around call)
  | .details _ | .halt _ => []

/-- The cookies that calls hand over, one call after the other. -/
def Crawler.handedIn (c : Crawler) : List Call → List String
  | [] => []
  | call :: calls => c.handed source around call ++ (c.perform source around call).handedIn calls

variable {source : Source} {around : Surroundings} {c c' : Crawler}

theorem receivedUntil_eq {events : List Event} {cookies : List String}
    (hevents : c'.world.history = c.world.history ++ events) (hreceives : Receives events cookies) :
    receivedUntil c c' = cookies := by
  rw [receivedUntil, hevents, List.drop_left, hreceives]

theorem cookies_crawlWork (q : Query) (c : Crawler) :
    (crawlWork source around ⟨sessionFor source q, c⟩).2.session.cookies =
      receivedUntil c (crawl source around q c).2 := by
  obtain ⟨events, hevents, hreceives⟩ := receives_crawl source around q c
  exact (receivedUntil_eq hevents hreceives).symm

theorem HandedOver.cookies_eq (h : HandedOver c c') :
    c'.cookies = keepCookies c.cookies (receivedUntil c c') := by
  obtain ⟨events, cookies, hevents, hreceives, hkept⟩ := h
  rw [receivedUntil_eq hevents hreceives, hkept]

theorem cookies_perform (c : Crawler) (call : Call) :
    (c.perform source around call).cookies =
      keepCookies c.cookies (c.handed source around call) := by
  have hserving : Serving source around (HandedOver c) fun _ => HandedOver c := serving_handedOver c
  have hsettle (fault : Fault) (c' : Crawler) (h : HandedOver c c') :
      HandedOver c (c'.settle fault) := h.trans (handedOver_settle c' fault)
  cases call with
  | ask q useCache =>
      exact (hserving.ask hsettle (fun _ _ h => h) q useCache c (.refl c)).cookies_eq
  | retrieve q => exact (hserving.retrieve hsettle q c (.refl c)).cookies_eq
  | details results => exact (beginsWith_fetchDetails results c).1
  | halt reason => rfl

/-- The crawler keeps what calls hand over. -/
theorem cookies_foldl_perform (calls : List Call) (c : Crawler) :
    (calls.foldl (Crawler.perform source around) c).cookies =
      keepCookies c.cookies (c.handedIn source around calls) := by
  induction calls generalizing c with
  | nil => rfl
  | cons call calls ih =>
      rw [List.foldl_cons, ih, cookies_perform, Crawler.handedIn]
      exact List.foldl_append.symm

end Calls

structure CookiesKept (source : Source) (around : Surroundings) (handed : List String)
    (c : Crawler) : Prop where
  jar : Jar handed c.cookies
  /-- The jar of a crawl's own session holds what the crawl has received. -/
  session : ∀ q, (crawlWork source around ⟨sessionFor source q, c⟩).2.session.cookies =
    receivedUntil c (crawl source around q c).2
  /-- Whatever a crawl ends in, it hands this jar over. -/
  crawl : ∀ q, (crawl source around q c).2.cookies =
    keepCookies c.cookies (crawlWork source around ⟨sessionFor source q, c⟩).2.session.cookies
  /-- After further crawls the jar keeps what they have received too, wherever they end. -/
  crawls : ∀ results qs, Jar (handed ++ receivedUntil c (crawlEach source around results qs c).2)
    (crawlEach source around results qs c).2.cookies
  /-- Details are fetched in sessions that begin with the jar, and leave it alone. -/
  details : ∀ results, (fetchDetails source around results c).2.cookies = c.cookies ∧
    ∃ events, (fetchDetails source around results c).2.world.history = c.world.history ++ events ∧
      ∀ begun ∈ events.filterMap Event.start?, BeginsWith source c.cookies begun.2

/-- After any calls the crawler keeps one cookie for each name that has been handed over: the names
in the order in which they have come first, and of each one the cookie that has come last. -/
theorem jar_keeps_latest_of_each_name (source : Source) (around : Surroundings)
    (calls : List Call) :
    CookiesKept source around (Crawler.initial.handedIn source around calls)
      (.after source around calls) := by
  have hjar : Jar (Crawler.initial.handedIn source around calls)
      (Crawler.after source around calls).cookies := by
    rw [Crawler.after, cookies_foldl_perform]
    exact Jar.empty.keepCookies _
  exact {
    jar := hjar
    session q := cookies_crawlWork q _
    crawl q := cookies_crawl source around q _
    crawls results qs := by
      rw [(handedOver_crawlEach results qs _).cookies_eq]
      exact hjar.keepCookies _
    details results := beginsWith_fetchDetails results _ }

end Harvest.Crawl
