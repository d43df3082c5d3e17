import Harvest.Proofs.Crawl.Invariant

/-!
No request while the work is halted.

A halt may come at any time: before an execution or a call, while a request is being answered, or
between two requests. The history shows the halt where it comes, and no request behind it. If it
comes while a request is being answered, that request is the last one.
-/

namespace Harvest.Script

namespace World

def haltedAfter (start : World) (events : List Event) : Bool :=
  start.isHalted || events.any Event.isHalt

/-- Since the start the token has followed the history, and wherever a request has been sent the
work was not halted. -/
def SendsGoing (start w : World) : Prop :=
  ∃ events, w.history = start.history ++ events ∧ w.isHalted = start.haltedAfter events ∧
    ∀ before request reply, before ++ [.fetched request reply] <+: events →
      start.haltedAfter before = false

/-- A request since the start during whose answer a halt came is the last one. -/
def EndsInFlight (around : Surroundings) (start w : World) : Prop :=
  ∀ i reason, around.halt? (.fetch i) = some reason → start.requests.length ≤ i →
    i < w.requests.length → w.isHalted = true ∧ w.requests.length = i + 1

/-- No request has been sent since the start while the work was halted. -/
structure Heeds (around : Surroundings) (start w : World) : Prop where
  sent : SendsGoing start w
  last : EndsInFlight around start w

variable {around : Surroundings} {start w w' : World}

theorem requests_of_history {e : Event} (h : w'.history = w.history ++ [e]) :
    w'.requests = w.requests ++ e.request?.toList := by
  rw [requests, h, List.filterMap_append, requests]
  cases he : e.request? <;> simp [he]

theorem requests_interrupt (w : World) (reason : Option String) :
    (w.interrupt reason).requests = w.requests := by
  unfold interrupt
  split
  · unfold halt
    split
    · rfl
    · next reason _ =>
      exact (requests_of_history (e := .halted reason) rfl).trans (List.append_nil _)
  · rfl

theorem requests_fetch (w : World) (around : Surroundings) (request : Fetch.Request) :
    (w.fetch around request).2.requests = w.requests ++ [request] :=
  (requests_interrupt _ _).trans
    (requests_of_history (e := .fetched request (around.reply w.requests.length request)) rfl)

namespace SendsGoing

theorem refl (w : World) : SendsGoing w w := by
  refine ⟨[], by simp, by simp [haltedAfter], fun before request reply hprefix => ?_⟩
  have hlength := hprefix.length_le
  simp at hlength

/-- One more event, which is a request only if the work is not halted. -/
theorem record (h : SendsGoing start w) {e : Event} (he : e.request? = none ∨ w.isHalted = false)
    (hhistory : w'.history = w.history ++ [e]) (hhalted : w'.isHalted = (w.isHalted || e.isHalt)) :
    SendsGoing start w' := by
  obtain ⟨events, hevents, htoken, hsent⟩ := h
  refine ⟨events ++ [e], ?_, ?_, fun before request reply hprefix => ?_⟩
  · rw [hhistory, hevents, List.append_assoc]
  · simp [hhalted, htoken, haltedAfter, Bool.or_assoc]
  · -- A request on record is the new event, or it was on record before.
    obtain heq | hprefix := List.prefix_concat_iff.mp hprefix
    · obtain ⟨rfl, hlast⟩ := List.append_inj' heq rfl
      obtain rfl := List.singleton_inj.mp hlast
      rw [← htoken]
      exact he.resolve_left nofun
    · exact hsent before request reply hprefix

theorem halt (h : SendsGoing start w) (reason : String) : SendsGoing start (w.halt reason) := by
  have hstopped := isHalted_halt w reason
  unfold World.halt at hstopped ⊢
  split
  · exact h
  · next hrunning =>
    rw [if_neg hrunning] at hstopped
    exact h.record (e := .halted reason) (.inl rfl) rfl (by rw [hstopped]; simp [Event.isHalt])

theorem fetch (h : SendsGoing start w) (request : Fetch.Request) (hgoing : w.isHalted = false) :
    SendsGoing start (w.fetch around request).2 :=
  interrupt_keeps (fun _ _ reason _ hw => hw.halt reason) (.fetch w.requests.length)
    (h.record (.inr hgoing) rfl (Bool.or_false _).symm)

end SendsGoing

theorem EndsInFlight.of_requests (h : EndsInFlight around start w)
    (hrequests : w'.requests = w.requests) (hhalted : w.isHalted = true → w'.isHalted = true) :
    EndsInFlight around start w' := by
  intro i reason hreason hi hlt
  rw [hrequests] at hlt ⊢
  obtain ⟨hstopped, hlast⟩ := h i reason hreason hi hlt
  exact ⟨hhalted hstopped, hlast⟩

theorem EndsInFlight.fetch (h : EndsInFlight around start w) (request : Fetch.Request)
    (hgoing : w.isHalted = false) : EndsInFlight around start (w.fetch around request).2 := by
  intro i reason hreason hi hlt
  rw [requests_fetch, List.length_append, List.length_singleton] at hlt ⊢
  -- A halt during an earlier answer would have kept this request from being sent.
  obtain hpast | rfl : i < w.requests.length ∨ i = w.requests.length := by omega
  · have hstopped := (h i reason hreason hi hpast).1
    rw [hgoing] at hstopped
    cases hstopped
  · refine ⟨?_, rfl⟩
    simp only [World.fetch, interrupt, hreason]
    exact isHalted_halt _ reason

namespace Heeds

theorem refl (around : Surroundings) (w : World) : Heeds around w w where
  sent := .refl w
  last _ _ _ hi hlt := absurd hlt (Nat.not_lt.mpr hi)

/-- Events that are neither requests nor halts may come at any time. -/
theorem record (h : Heeds around start w) {e : Event} (hrequest : e.request? = none)
    (hhalt : e.isHalt = false) : Heeds around start (w.record e) where
  sent := h.sent.record (.inl hrequest) rfl (by rw [hhalt, Bool.or_false]; rfl)
  last := by
    have hrequests : (w.record e).requests = w.requests ++ e.request?.toList :=
      requests_of_history rfl
    rw [hrequest] at hrequests
    exact h.last.of_requests (hrequests.trans (List.append_nil _)) id

theorem halt (h : Heeds around start w) (reason : String) : Heeds around start (w.halt reason) where
  sent := h.sent.halt reason
  last := h.last.of_requests (requests_interrupt w (some reason)) fun _ => isHalted_halt w reason

end Heeds

/-- An execution asks the token before each of its requests, so none is sent after a halt. -/
theorem steady_heeds (start : World) : Steady around (Heeds around start) where
  same w w' htoken hhistory h := by
    have hhalted : w'.isHalted = w.isHalted := by rw [isHalted, isHalted, htoken]
    refine ⟨?_, h.last.of_requests (by rw [requests, requests, hhistory]) hhalted.trans⟩
    have hsent := h.sent
    rw [SendsGoing] at hsent ⊢
    rwa [hhistory, hhalted]
  command _ _ _ _ h := h.record rfl rfl
  fetch _ request hgoing h := ⟨h.sent.fetch request hgoing, h.last.fetch request hgoing⟩
  halt _ _ reason _ h := h.halt reason

end World

theorem execute_heeds (settings : Settings) (around : Surroundings) (script : Script)
    (start : Run) :
    World.Heeds around start.world (execute settings around script start).2.world := by
  have hsteady : World.Steady around (World.Heeds around start.world) :=
    World.steady_heeds start.world
  obtain ⟨w, hw, htoken, hhistory, -⟩ := execute_keeps settings hsteady script start
    ((World.Heeds.refl around start.world).record rfl rfl)
  exact hsteady.same (w.record (.ended _)) _ htoken hhistory (hw.record rfl rfl)

end Harvest.Script

namespace Harvest.Crawl

open Harvest.Catalog Harvest.Script

theorem lasting_heeds (source : Source) (around : Surroundings) (start : World) :
    Lasting source around (fun c => World.Heeds around start c.world)
      fun _ c => World.Heeds around start c.world :=
  lasting_of_steady (World.steady_heeds start) (fun _ _ _ h => h.record rfl rfl)
    fun _ _ h => h.record rfl rfl

theorem heeds_settle {around : Surroundings} {start : World} (fault : Fault) (c : Crawler)
    (h : World.Heeds around start c.world) : World.Heeds around start (c.settle fault).world := by
  unfold Crawler.settle
  split
  · exact h.halt fault.reason
  · exact h

/-- Whoever halts the work, and whenever this happens, neither executions nor crawlers send requests
from then on. -/
theorem no_request_while_halted (source : Source) (around : Surroundings) (c : Crawler) :
    (∀ settings script start,
        World.Heeds around start.world (execute settings around script start).2.world) ∧
      (∀ q useCache, World.Heeds around c.world (ask source around q useCache c).2.world) ∧
      (∀ q, World.Heeds around c.world (retrieve source around q c).2.world) ∧
      ∀ results, World.Heeds around c.world (fetchDetails source around results c).2.world := by
  have hlasting := lasting_heeds source around c.world
  have hstart := World.Heeds.refl around c.world
  refine ⟨fun settings script start => execute_heeds settings around script start, ?_, ?_, ?_⟩
  · exact fun q useCache => ask_keeps hlasting heeds_settle (fun _ _ h => h) q useCache c hstart
  · exact fun q => retrieve_keeps hlasting heeds_settle q c hstart
  · exact fun results => fetchDetails_keeps hlasting heeds_settle results c hstart

end Harvest.Crawl
