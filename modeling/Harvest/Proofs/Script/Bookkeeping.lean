import Harvest.Proofs.Script.Ceiling
import Mathlib.Data.List.Induction

/-!
Sessions are books of what executions put on record.

Whoever reads the history with the session that it began with knows the session at the end, but for
its errors: he enters one event after the other. Only successes enter cookies and addresses, and
only rules enter properties. What a fetch sends follows from the books when its command begins, and
as errors enter nothing, every further attempt sends the same.
-/

namespace Harvest.Script

open Harvest.Rule

def Event.success? : Event → Option (Fetch.Request × Fetch.Response)
  | .fetched request reply => (successOf reply).toOption.map (request, ·)
  | _ => none

def Event.enablesCookies : Event → Bool
  | .command .useCookies _ => true
  | _ => false

def Event.parses : Event → Bool
  | .command (.parse _) _ => true
  | _ => false

/-- The cookies of the successes among events while cookies count, which they do at first or not. -/
def keptCookies : Bool → List Event → List String
  | _, [] => []
  | enabled, e :: events =>
    (if enabled then (e.success?.map (·.2.cookies)).getD [] else []) ++
      keptCookies (enabled || e.enablesCookies) events

def contextOf (last : Value) : Context :=
  match last with
  | .node n => .node n
  | last => .text (last.text?.getD "")

/-- What a fetch sends, and the address that it is for. -/
def requestFor? (s : Session) (c : FetchCommand) (last : Value) : Option (Fetch.Request × Url) :=
  if c.runsOn s.page then
    (target s c last).toOption.map fun address =>
      (withCookiesOf (requestOf s c address) s, address)
  else none

/-- A session as the history tells it, and what the fetch under way sends. -/
structure Books where
  session : Session
  sending : Option (Fetch.Request × Url)

namespace Books

def of (s : Session) : Books := ⟨s, none⟩

/-- The books when a command begins; those of a fetch are closed when its answer comes. -/
def command (b : Books) (c : Command) (last : Value) : Books :=
  match c with
  | .useCookies => of b.session.enableCookies
  | .fetch c => ⟨b.session, requestFor? b.session c last⟩
  | .parse rules =>
    of { b.session with
      bag := (evaluateAll b.session.base (contextOf last) rules b.session.bag).2 }
  | _ => of b.session

def received (b : Books) (response : Fetch.Response) : Books :=
  of { b.session.addCookies response.cookies with
    base := (Url.ofText response.address).toOption.or (b.sending.map (·.2)) }

def enter (b : Books) : Event → Books
  | .halted _ => b
  | .began _ _ => of b.session.beginExecution
  | .command c last => b.command c last
  | .fetched _ reply =>
    match successOf reply with
    | .ok response => b.received response
    | .error _ => b
  | .ended outcome => of (b.session.finishExecution (phaseOf outcome))

def after (b : Books) (events : List Event) : Books := events.foldl enter b

/-- A request has to be the one that the fetch under way sends. -/
def Fits (b : Books) : Event → Prop
  | .fetched request _ => ∃ address, b.sending = some (request, address)
  | _ => True

def Fit (b : Books) : List Event → Prop
  | [] => True
  | e :: events => b.Fits e ∧ (b.enter e).Fit events

/-- A session that is as the books tell, but for its errors. -/
def Agrees (b : Books) (s : Session) : Prop := ∃ errors, s = { b.session with errors := errors }

section Entries

variable {b : Books} {e : Event} {events later : List Event}

theorem after_append : b.after (events ++ later) = (b.after events).after later :=
  List.foldl_append

theorem after_concat : b.after (events ++ [e]) = (b.after events).enter e := after_append

theorem fit_append : b.Fit (events ++ later) ↔ b.Fit events ∧ (b.after events).Fit later := by
  induction events generalizing b with
  | nil => exact (and_iff_right trivial).symm
  | cons e events ih => exact (and_congr_right' ih).trans and_assoc.symm

theorem fit_concat : b.Fit (events ++ [e]) ↔ b.Fit events ∧ (b.after events).Fits e :=
  fit_append.trans (and_congr_right' (and_iff_left trivial))

/-- Halts enter nothing. -/
theorem of_halts (h : ∀ e ∈ later, e.isHalt = true) : b.Fit later ∧ b.after later = b := by
  induction later with
  | nil => exact ⟨trivial, rfl⟩
  | cons e later ih =>
      obtain ⟨he, hlater⟩ := List.forall_mem_cons.mp h
      cases e with
      | halted reason => exact ⟨⟨trivial, (ih hlater).1⟩, (ih hlater).2⟩
      | _ => cases he

theorem enter_of_ok {request : Fetch.Request} {reply : Except Fetch.Error Fetch.Response}
    {response : Fetch.Response} (h : successOf reply = .ok response) :
    b.enter (.fetched request reply) = b.received response := by
  simp only [enter, h]

/-- Requests that failed enter nothing. -/
theorem enter_of_isFailure (h : e.isFailure = true) : b.enter e = b := by
  cases e with
  | fetched request reply =>
      simp only [Event.isFailure, enter] at h ⊢
      cases hreply : successOf reply with
      | error _ => rfl
      | ok _ => rw [hreply] at h; cases h
  | _ => cases h

theorem after_filter : b.after (events.filter fun e => !e.isFailure) = b.after events := by
  induction events generalizing b with
  | nil => rfl
  | cons e events ih =>
      cases he : e.isFailure with
      | false => rw [List.filter_cons_of_pos (by rw [he]; rfl)]; exact ih
      | true =>
          rw [List.filter_cons_of_neg (by rw [he]; exact Bool.false_ne_true), ih]
          exact congrArg (after · events) (enter_of_isFailure he).symm

/-- Where an event is no success, what it enters is no cookie and no address. -/
theorem enter_of_success?_eq_none (h : e.success? = none) :
    (b.enter e).session.cookies = b.session.cookies ∧
      (b.enter e).session.base = b.session.base := by
  cases e with
  | command c last => cases c <;> exact ⟨rfl, rfl⟩
  | fetched request reply =>
      have hfailure : (Event.fetched request reply).isFailure = true := by
        simp only [Event.success?, Event.isFailure] at h ⊢
        cases hreply : successOf reply with
        | error _ => rfl
        | ok _ => rw [hreply] at h; cases h
      rw [enter_of_isFailure hfailure]
      exact ⟨rfl, rfl⟩
  | _ => exact ⟨rfl, rfl⟩

theorem enter_of_success? {request : Fetch.Request} {response : Fetch.Response}
    (h : e.success? = some (request, response)) : b.enter e = b.received response ∧
      ∃ reply, e = .fetched request reply := by
  cases e with
  | fetched request' reply =>
      obtain ⟨response', hresponse, hpair⟩ := Option.map_eq_some_iff.mp h
      obtain ⟨rfl, rfl⟩ := Prod.mk.inj hpair
      cases hreply : successOf reply with
      | error _ => rw [hreply] at hresponse; cases hresponse
      | ok _ =>
          rw [hreply] at hresponse
          cases hresponse
          exact ⟨enter_of_ok hreply, reply, rfl⟩
  | _ => cases h

theorem cookies_received (b : Books) (response : Fetch.Response) :
    (b.received response).session.cookies =
      b.session.cookies ++ if b.session.cookiesEnabled then response.cookies else [] := by
  simp only [received, of, Session.addCookies]
  split
  · rfl
  · exact (List.append_nil _).symm

theorem cookiesEnabled_received (b : Books) (response : Fetch.Response) :
    (b.received response).session.cookiesEnabled = b.session.cookiesEnabled := by
  simp only [received, of, Session.addCookies]
  split <;> rfl

theorem bag_received (b : Books) (response : Fetch.Response) :
    (b.received response).session.bag = b.session.bag := by
  simp only [received, of, Session.addCookies]
  split <;> rfl

theorem enter_cookies : (b.enter e).session.cookies = b.session.cookies ++
    if b.session.cookiesEnabled then (e.success?.map (·.2.cookies)).getD [] else [] := by
  cases hsuccess : e.success? with
  | none =>
      rw [(enter_of_success?_eq_none hsuccess).1]
      simp
  | some pair =>
      rw [(enter_of_success? hsuccess).1, cookies_received]
      rfl

theorem enter_cookiesEnabled :
    (b.enter e).session.cookiesEnabled = (b.session.cookiesEnabled || e.enablesCookies) := by
  cases e with
  | command c last => cases c <;> first | exact (Bool.or_true _).symm | exact (Bool.or_false _).symm
  | fetched request reply =>
      refine Eq.trans ?_ (Bool.or_false _).symm
      cases hreply : successOf reply with
      | error _ => simp only [enter, hreply]
      | ok response => rw [enter_of_ok hreply, cookiesEnabled_received]
  | _ => exact (Bool.or_false _).symm

theorem enter_bag (h : e.parses = false) : (b.enter e).session.bag = b.session.bag := by
  cases e with
  | command c last => cases c <;> first | rfl | cases h
  | fetched request reply =>
      cases hreply : successOf reply with
      | error _ => simp only [enter, hreply]
      | ok response => rw [enter_of_ok hreply, bag_received]
  | _ => rfl

/-- The jar holds what it held at first and then, in order, the cookies of the successes that came
while they counted. -/
theorem after_cookies : (b.after events).session.cookies =
    b.session.cookies ++ keptCookies b.session.cookiesEnabled events := by
  induction events generalizing b with
  | nil => exact (List.append_nil _).symm
  | cons e events ih =>
      have hrest := ih (b := b.enter e)
      rw [enter_cookies, enter_cookiesEnabled, List.append_assoc] at hrest
      exact hrest

/-- Cookies count once they are enabled. -/
theorem after_cookiesEnabled : (b.after events).session.cookiesEnabled =
    (b.session.cookiesEnabled || events.any Event.enablesCookies) := by
  induction events generalizing b with
  | nil => exact (Bool.or_false _).symm
  | cons e events ih =>
      have hrest := ih (b := b.enter e)
      rw [enter_cookiesEnabled, Bool.or_assoc] at hrest
      exact hrest

/-- Only commands that extract values change the properties. -/
theorem after_bag (h : ∀ e ∈ events, e.parses = false) :
    (b.after events).session.bag = b.session.bag := by
  induction events generalizing b with
  | nil => rfl
  | cons e events ih =>
      obtain ⟨he, hevents⟩ := List.forall_mem_cons.mp h
      exact (ih hevents).trans (enter_bag he)

end Entries

/-- What a fetch under way sends is for its address. -/
def Addressed (b : Books) : Prop :=
  ∀ request address, b.sending = some (request, address) → request.address = address.text

section Requests

variable {b : Books} {e : Event} {events : List Event} {s : Session} {request : Fetch.Request}
  {address : Url}

theorem requestFor?_eq_some {c : FetchCommand} {last : Value}
    (h : requestFor? s c last = some (request, address)) :
    request.address = address.text ∧
      request.cookies = if s.cookiesEnabled then s.cookies else [] := by
  unfold requestFor? at h
  split at h
  · obtain ⟨address', -, hpair⟩ := Option.map_eq_some_iff.mp h
    obtain ⟨rfl, rfl⟩ := Prod.mk.inj hpair
    unfold withCookiesOf
    split <;> exact ⟨rfl, rfl⟩
  · cases h

/-- What is sent at an event's end was sent before it, or else a fetch has just begun. -/
theorem sending_enter (h : (b.enter e).sending = some (request, address)) :
    (b.sending = some (request, address) ∧ (e.isHalt = true ∨ e.isFailure = true)) ∨
      ∃ c last, e = .command (.fetch c) last ∧
        requestFor? b.session c last = some (request, address) := by
  cases e with
  | halted reason => exact .inl ⟨h, .inl rfl⟩
  | began script session => cases h
  | command c last =>
      cases c with
      | fetch c => exact .inr ⟨c, last, rfl, h⟩
      | _ => cases h
  | fetched sent reply =>
      simp only [enter] at h
      cases hreply : successOf reply with
      | error error =>
          rw [hreply] at h
          exact .inl ⟨h, .inr (by simp only [Event.isFailure, hreply]; rfl)⟩
      | ok response => rw [hreply] at h; cases h
  | ended outcome => cases h

theorem Addressed.after (hb : b.Addressed) : (b.after events).Addressed := by
  induction events using List.reverseRecOn with
  | nil => exact hb
  | append_singleton events e ih =>
      intro request address h
      rw [after_concat] at h
      obtain ⟨hsame, -⟩ | ⟨c, last, -, hfor⟩ := sending_enter h
      · exact ih request address hsame
      · exact (requestFor?_eq_some hfor).1

/-- The address that others are relative to is where the last success came from, as its response
says, or else where its request was sent. -/
theorem after_base (hb : b.Addressed) (hfit : b.Fit events) :
    match (events.filterMap Event.success?).getLast? with
    | none => (b.after events).session.base = b.session.base
    | some (request, response) => ∃ address, address.text = request.address ∧
        (b.after events).session.base =
          some ((Url.ofText response.address).toOption.getD address) := by
  induction events using List.reverseRecOn with
  | nil => rfl
  | append_singleton events e ih =>
      obtain ⟨hevents, hfits⟩ := fit_concat.mp hfit
      rw [List.filterMap_append, after_concat]
      cases hsuccess : e.success? with
      | none =>
          simp only [List.filterMap_cons, hsuccess, List.filterMap_nil, List.append_nil]
          rw [(enter_of_success?_eq_none hsuccess).2]
          exact ih hevents
      | some pair =>
          obtain ⟨request, response⟩ := pair
          obtain ⟨henter, reply, rfl⟩ := enter_of_success? (b := b.after events) hsuccess
          obtain ⟨address, hsending⟩ := hfits
          simp only [List.filterMap_cons, hsuccess, List.filterMap_nil, List.getLast?_concat]
          refine ⟨address, (hb.after request address hsending).symm, ?_⟩
          rw [henter]
          simp only [received, of, hsending, Option.map_some]
          cases (Url.ofText response.address).toOption <;> rfl

/-- Whatever is sent belongs to a fetch: since its command began there were only halts and attempts
that failed, with the same request. -/
theorem sending_after (hb : b.sending = none) (hfit : b.Fit events)
    (h : (b.after events).sending = some (request, address)) :
    ∃ earlier c last attempts, events = earlier ++ .command (.fetch c) last :: attempts ∧
      (∀ e ∈ attempts, e.isHalt = true ∨ ∃ reply, e = .fetched request reply ∧
        (successOf reply).isOk = false) ∧
      requestFor? (b.after earlier).session c last = some (request, address) := by
  induction events using List.reverseRecOn with
  | nil =>
      rw [after, List.foldl_nil, hb] at h
      cases h
  | append_singleton events e ih =>
      obtain ⟨hevents, hfits⟩ := fit_concat.mp hfit
      rw [after_concat] at h
      obtain ⟨hsame, hidle⟩ | ⟨c, last, rfl, hfor⟩ := sending_enter h
      · obtain ⟨earlier, c, last, attempts, rfl, hattempts, hfor⟩ := ih hevents hsame
        refine ⟨earlier, c, last, attempts ++ [e], List.append_assoc _ _ _, ?_, hfor⟩
        refine List.forall_mem_append.mpr ⟨hattempts, List.forall_mem_singleton.mpr ?_⟩
        obtain hhalt | hfailure := hidle
        · exact .inl hhalt
        · cases e with
          | fetched sent reply =>
              obtain ⟨address', hsent⟩ := hfits
              obtain ⟨rfl, -⟩ := Prod.mk.inj (Option.some.inj (hsent.symm.trans hsame))
              exact .inr ⟨reply, rfl, by simpa [Event.isFailure] using hfailure⟩
          | _ => cases hfailure
      · exact ⟨events, c, last, [], rfl, by simp, hfor⟩

end Requests

end Books

/-- Since the history was the earlier one, its events have been entered into the books, and the
session is as these tell. -/
def Booked (b : Books) (earlier : List Event) (r : Run) : Prop :=
  ∃ events, r.world.history = earlier ++ events ∧ b.Fit events ∧ (b.after events).Agrees r.session

/-- The same while a fetch waits for its answer: nothing has been entered. -/
def Waiting (b : Books) (earlier : List Event) (r : Run) : Prop :=
  ∃ events, r.world.history = earlier ++ events ∧ b.Fit events ∧ b.after events = b ∧
    b.Agrees r.session

section Running

variable {settings : Settings} {around : Surroundings} {b : Books} {earlier : List Event}
  {r r' : Run}

theorem Books.Agrees.recordError {s : Session} (h : b.Agrees s) : b.Agrees s.recordError := by
  obtain ⟨errors, rfl⟩ := h
  exact ⟨errors + 1, rfl⟩

namespace Booked

theorem refl (h : b.Agrees r.session) : Booked b r.world.history r :=
  ⟨[], (List.append_nil _).symm, trivial, h⟩

/-- What has been entered already may be left out. -/
theorem of_after {events : List Event} (hfit : b.Fit events)
    (h : Booked (b.after events) (earlier ++ events) r) : Booked b earlier r := by
  obtain ⟨later, hlater, hfit', hagrees⟩ := h
  refine ⟨events ++ later, hlater.trans (List.append_assoc _ _ _),
    Books.fit_append.mpr ⟨hfit, hfit'⟩, ?_⟩
  rw [Books.after_append]
  exact hagrees

/-- The books may be closed at any point and be kept on from there. -/
theorem trans (h : Booked b earlier r)
    (hnext : ∀ b : Books, b.Agrees r.session → Booked b r.world.history r') :
    Booked b earlier r' := by
  obtain ⟨events, hevents, hfit, hagrees⟩ := h
  exact .of_after hfit (hevents ▸ hnext _ hagrees)

/-- An event that is no request and does to the session what is entered. -/
theorem event (h : Booked b earlier r) {e : Event} (hfits : ∀ b : Books, b.Fits e)
    (hhistory : r'.world.history = r.world.history ++ [e])
    (hagrees : ∀ b : Books, b.Agrees r.session → (b.enter e).Agrees r'.session) :
    Booked b earlier r' :=
  h.trans fun b hb => ⟨[e], hhistory, ⟨hfits b, trivial⟩, hagrees b hb⟩

/-- Halts are not entered. -/
theorem halts (h : b.Agrees r.session) {later : List Event}
    (hlater : r.world.history = earlier ++ later) (hhalts : ∀ e ∈ later, e.isHalt = true) :
    Booked b earlier r := by
  obtain ⟨hfit, hafter⟩ := Books.of_halts (b := b) hhalts
  exact ⟨later, hlater, hfit, hafter.symm ▸ h⟩

/-- The work may be halted when the token is asked. -/
theorem poll (h : Booked b earlier r) (around : Surroundings) :
    Booked b earlier ⟨r.session, (r.world.poll around).2⟩ := by
  obtain ⟨halts, hhistory, hhalts⟩ := r.world.halts_poll around
  exact h.trans fun b hb => .halts hb hhistory hhalts

/-- Errors are not entered. -/
theorem recordError (h : Booked b earlier r) :
    Booked b earlier { r with session := r.session.recordError } := by
  obtain ⟨events, hevents, hfit, hagrees⟩ := h
  exact ⟨events, hevents, hfit, hagrees.recordError⟩

end Booked

theorem booked_fail (step message : String) :
    Triple (Booked b earlier) (fail settings step message) (fun _ => Booked b earlier)
      fun _ => Booked b earlier :=
  triple_fail (fun _ hr _ => hr.recordError) fun _ hr _ => hr.recordError

/-- Entries in the log, files that are loaded and errors are not entered. -/
theorem tolerant_booked :
    Tolerant settings around (Booked b earlier) fun _ => Booked b earlier where
  put kind text r hr := by
    obtain ⟨events, hevents, hfit, hagrees⟩ := hr
    exact ⟨events, (World.history_write _ _ _ _).trans hevents, hfit, hagrees⟩
  load _ _ hr := hr
  fail := booked_fail

theorem Waiting.booked (h : Waiting b earlier r) : Booked b earlier r := by
  obtain ⟨events, hevents, hfit, hafter, hagrees⟩ := h
  exact ⟨events, hevents, hfit, hafter.symm ▸ hagrees⟩

theorem Waiting.agrees (h : Waiting b earlier r) : b.Agrees r.session := by
  obtain ⟨events, hevents, hfit, hafter, hagrees⟩ := h
  exact hagrees

theorem Waiting.recordError (h : Waiting b earlier r) :
    Waiting b earlier { r with session := r.session.recordError } := by
  obtain ⟨events, hevents, hfit, hafter, hagrees⟩ := h
  exact ⟨events, hevents, hfit, hafter, hagrees.recordError⟩

/-- What a session receives is entered when the success comes. -/
theorem Books.Agrees.received {s : Session} (h : b.Agrees s) {sent : Fetch.Request} {address : Url}
    (hsending : b.sending = some (sent, address)) (response : Fetch.Response) :
    (b.received response).Agrees (s.received address response) := by
  obtain ⟨errors, rfl⟩ := h
  have hbase : (Url.ofText response.address).toOption.or (b.sending.map (·.2)) =
      some ((Url.ofText response.address).toOption.getD address) := by
    rw [hsending]
    cases (Url.ofText response.address).toOption <;> rfl
  refine ⟨errors, ?_⟩
  simp only [Books.received, Session.received, Books.of, Session.addCookies, hbase]
  split <;> rfl

section Attempts

variable {request : Fetch.Request} {address : Url}
  (hsending : b.sending = some (withCookiesOf request b.session, address))
include hsending

/-- An attempt sends what the fetch under way sends; errors have no part in that. -/
theorem Waiting.answered (h : Waiting b earlier r) (hgoing : (r.world.poll around).1 = false) :
    ∃ events, (answered settings around request r).2.history = earlier ++ events ∧
      b.Fit events ∧ b.after events = b.enter (.fetched (withCookiesOf request b.session)
        (answered settings around request r).1) := by
  obtain ⟨events, hevents, hfit, hafter, errors, hsession⟩ := h
  obtain ⟨halts, hhistory, hhalts⟩ := history_answered settings request hgoing
  have hsent : withCookiesOf request r.session = withCookiesOf request b.session := by
    rw [hsession]
    rfl
  rw [hsent, hevents] at hhistory
  let answer : Event := .fetched (withCookiesOf request b.session)
    (Script.answered settings around request r).1
  have hfits : b.Fit (events ++ [answer]) :=
    Books.fit_concat.mpr ⟨hfit, address, hafter.symm ▸ hsending⟩
  have hentered : b.after (events ++ [answer]) = b.enter answer := by
    rw [Books.after_concat, hafter]
  -- A halt that comes before the answer is not entered.
  obtain ⟨hfits', hentered'⟩ := Books.of_halts (b := b.after (events ++ [answer])) hhalts
  refine ⟨events ++ [answer] ++ halts, ?_, Books.fit_append.mpr ⟨hfits, hfits'⟩, ?_⟩
  · rw [hhistory, List.append_assoc, List.append_assoc, List.singleton_append]
  · rw [Books.after_append, hentered', hentered]

/-- Attempts wait until one of them succeeds. -/
theorem booked_attempts :
    Triple (Waiting b earlier) (attempts settings around request address)
      (fun _ => Booked b earlier) fun _ => Booked b earlier := by
  refine triple_attempts (M := Waiting b earlier) ?_ ?_ ?_ ?_
  · exact fun r hr _ => hr.booked.poll around
  · intro r response hr hgoing hreply
    obtain ⟨events, hhistory, hfit, hafter⟩ := hr.answered hsending hgoing
    refine ⟨events, hhistory, hfit, ?_⟩
    rw [hafter, Books.enter_of_ok hreply]
    exact hr.agrees.received hsending response
  · intro r e hr hgoing hreply
    obtain ⟨events, hhistory, hfit, hafter⟩ := hr.answered hsending hgoing
    refine ⟨events, hhistory, hfit, hafter.trans ?_, hr.agrees⟩
    exact Books.enter_of_isFailure (by simp only [Event.isFailure, hreply]; rfl)
  · exact fun _ => triple_fail (fun _ hr _ => hr.recordError) fun _ hr _ => hr.recordError.booked

end Attempts

/-- A fetch sends what the books of its session say. -/
theorem booked_fetched (c : FetchCommand) (last : Value) (hb : b.Agrees r.session) :
    Triple (Eq r) (fetched settings around c last)
      (fun _ => Booked ⟨b.session, requestFor? b.session c last⟩ r.world.history)
      fun _ => Booked ⟨b.session, requestFor? b.session c last⟩ r.world.history := by
  obtain ⟨errors, hsession⟩ := hb
  have hagrees : (Books.mk b.session (requestFor? b.session c last)).Agrees r.session :=
    ⟨errors, hsession⟩
  have hpage : r.session.page = b.session.page := by rw [hsession]
  have htarget : target r.session c last = target b.session c last := by
    rw [hsession]
    rfl
  have hrequest (address : Url) :
      requestOf r.session c address = requestOf b.session c address := by
    rw [hsession]
    rfl
  rintro _ rfl
  cases hruns : c.runsOn b.session.page with
  | false =>
      rw [fetched, bind_apply, get_apply]
      dsimp only
      rw [hpage, hruns]
      exact .refl hagrees
  | true =>
      cases haddress : target b.session c last with
      | error message =>
          rw [fetched, bind_apply, get_apply]
          dsimp only
          rw [hpage, hruns, htarget, haddress]
          exact triple_failing booked_fail "fetch" message r (.refl hagrees)
      | ok address =>
          have hfor : requestFor? b.session c last =
              some (withCookiesOf (requestOf b.session c address) b.session, address) := by
            rw [requestFor?, if_pos hruns, haddress]
            rfl
          rw [fetched_eq_attempts (hpage.symm ▸ hruns) (htarget.trans haddress), hrequest]
          exact booked_attempts hfor r ⟨[], (List.append_nil _).symm, trivial, rfl, hagrees⟩

/-- Whatever a command does follows from the books when it begins. -/
theorem booked_step (c : Command) (last : Value) (hb : b.Agrees r.session) :
    Triple (Eq r) (step settings around c last) (fun _ => Booked (b.command c last) r.world.history)
      fun _ => Booked (b.command c last) r.world.history := by
  have hleaves (hc : b.command c last = .of b.session) :
      Booked (b.command c last) r.world.history r := by
    refine .refl ?_
    rw [hc]
    exact hb
  cases c with
  | useCookies =>
      rintro _ rfl
      obtain ⟨errors, hsession⟩ := hb
      have henabled : (Books.of b.session.enableCookies).Agrees r.session.enableCookies := by
        rw [hsession]
        exact ⟨errors, rfl⟩
      exact .refl (r := { r with session := r.session.enableCookies }) henabled
  | fetch c => exact booked_fetched c last hb
  | parse rules =>
      obtain ⟨errors, hsession⟩ := hb
      refine Triple.bind (Q := fun r' t => r' = r ∧ t = r) (by rintro _ rfl; exact ⟨rfl, rfl⟩)
        fun r' => ?_
      refine Triple.bind (Q := fun _ => Booked (b.command (.parse rules) last) r.world.history) ?_
        fun _ => ?_
      · rintro t ⟨hsame, hstate⟩
        rw [hsame, hstate]
        refine .refl (r := ⟨{ r.session with bag := _ }, r.world⟩) ?_
        rw [hsession]
        exact ⟨errors, rfl⟩
      · split
        · exact triple_return
        · exact triple_failing booked_fail _ _
  | _ =>
      refine (tolerant_step tolerant_booked rfl last).imp ?_ (fun _ _ hr => hr) fun _ _ hr => hr
      rintro _ rfl
      exact hleaves rfl

theorem booked_steps (settings : Settings) (around : Surroundings) (last : Value)
    (commands : List Command) :
    Triple (Booked b earlier) (steps settings around last commands) (fun _ => Booked b earlier)
      fun _ => Booked b earlier := by
  refine triple_steps (P := fun _ => Booked b earlier) (fun _ _ hr => hr) ?_ ?_ last commands
  · exact fun _ _ hr _ => hr.poll around
  · rintro c commands last r ⟨events, hevents, hfit, hagrees⟩ hgoing
    let asked : Run := ⟨r.session, (r.world.poll around).2.record (.command c last)⟩
    have hasked : asked.world.history = earlier ++ (events ++ [.command c last]) := by
      rw [← List.append_assoc, ← hevents, ← World.history_of_going hgoing]
      rfl
    have hentered {r' : Run}
        (hr' : Booked ((b.after events).command c last) asked.world.history r') :
        Booked b earlier r' := by
      have hfit' : b.Fit (events ++ [.command c last]) := Books.fit_concat.mpr ⟨hfit, trivial⟩
      refine .of_after hfit' ?_
      rw [Books.after_concat, ← hasked]
      exact hr'
    exact (booked_step (r := asked) c last hagrees).imp (fun _ hr => hr) (fun _ _ => hentered)
      fun _ _ => hentered

theorem booked_begun (script : Script) (h : Booked b earlier r) :
    Booked b earlier (begun script r) := by
  refine h.event (e := .began script r.session) (fun _ => trivial) rfl fun b hb => ?_
  obtain ⟨errors, hsession⟩ := hb
  refine ⟨0, ?_⟩
  rw [begun, hsession]
  rfl

theorem booked_execute (script : Script) (h : Booked b earlier r) :
    Booked b earlier (execute settings around script r).2 := by
  obtain ⟨outcome, r', w, hsteps, hexecute, -, hhistory⟩ := execute_apply settings around script r
  have hended : Booked b earlier r' := by
    have hrun := booked_steps settings around .null script.commands _ (booked_begun script h)
    rw [hsteps] at hrun
    cases outcome with
    | ok v => exact hrun
    | error fault => exact hrun
  rw [hexecute]
  refine hended.event (e := .ended outcome) (fun _ => trivial) hhistory fun b hb => ?_
  obtain ⟨errors, hsession⟩ := hb
  refine ⟨errors, ?_⟩
  dsimp only
  rw [hsession]
  rfl

end Running

def executions (settings : Settings) (around : Surroundings) (scripts : List Script)
    (start : Run) : Run :=
  scripts.foldl (fun r script => (execute settings around script r).2) start

theorem booked_executions {settings : Settings} {around : Surroundings} {b : Books}
    {earlier : List Event} {start : Run} (scripts : List Script) (h : Booked b earlier start) :
    Booked b earlier (executions settings around scripts start) :=
  List.foldlRecOn scripts _ h fun _ hr script _ => booked_execute script hr

def Session.enabledAfter (s : Session) (events : List Event) : Bool :=
  s.cookiesEnabled || events.any Event.enablesCookies

/-- The jar after events: what it held at first and, in order, the cookies of exactly those
successes that came while cookies counted. -/
def Session.jarAfter (s : Session) (events : List Event) : List String :=
  s.cookies ++ keptCookies s.cookiesEnabled events

structure Bookkeeping (start : Session) (events : List Event) (stop : Session) : Prop where
  jar : stop.cookies = start.jarAfter events
  enabled : stop.cookiesEnabled = start.enabledAfter events
  /-- Addresses are relative to where the last success came from, as its response says, or else to
  the address of its request. -/
  base : match (events.filterMap Event.success?).getLast? with
    | none => stop.base = start.base
    | some (request, response) => ∃ address, address.text = request.address ∧
        stop.base = some ((Url.ofText response.address).toOption.getD address)
  /-- All of the session but its errors follows from the events that are no failures. -/
  replay : ∃ errors, stop =
    { ((Books.of start).after (events.filter fun e => !e.isFailure)).session with errors := errors }
  /-- Every attempt of a fetch sends the same request, with the jar that was at hand when the fetch
  began. -/
  sent : ∀ before request reply later, events = before ++ .fetched request reply :: later →
    ∃ earlier c last attempts, before = earlier ++ .command (.fetch c) last :: attempts ∧
      (∀ e ∈ attempts, e.isHalt = true ∨ ∃ reply, e = .fetched request reply ∧
        (successOf reply).isOk = false) ∧
      request.cookies = if start.enabledAfter earlier then start.jarAfter earlier else []
  /-- The properties are those of any earlier time since when no values have been extracted. -/
  bag : ∀ before later, events = before ++ later → (∀ e ∈ later, e.parses = false) →
    stop.bag = ((Books.of start).after before).session.bag

def Accounted (start stop : Run) : Prop :=
  ∃ events, stop.world.history = start.world.history ++ events ∧
    Bookkeeping start.session events stop.session

theorem Booked.accounted {start r : Run}
    (h : Booked (.of start.session) start.world.history r) : Accounted start r := by
  obtain ⟨events, hevents, hfit, errors, hsession⟩ := h
  have haddressed : (Books.of start.session).Addressed := by rintro _ _ ⟨⟩
  refine ⟨events, hevents, ?_⟩
  rw [hsession]
  exact {
    jar := Books.after_cookies
    enabled := Books.after_cookiesEnabled
    base := Books.after_base haddressed hfit
    replay := ⟨errors, by rw [Books.after_filter]⟩
    sent := by
      rintro before request reply later rfl
      obtain ⟨hbefore, ⟨address, hsending⟩, -⟩ := Books.fit_append.mp hfit
      obtain ⟨earlier, c, last, attempts, hsplit, hattempts, hfor⟩ :=
        Books.sending_after rfl hbefore hsending
      refine ⟨earlier, c, last, attempts, hsplit, hattempts, ?_⟩
      rw [(Books.requestFor?_eq_some hfor).2, Books.after_cookies, Books.after_cookiesEnabled]
      rfl
    bag := by
      rintro before later rfl hlater
      rw [Books.after_append]
      exact Books.after_bag hlater }

/-- A session is accounted for by what is on record, after executions and between any two commands
of one that is under way. -/
theorem session_accounted (settings : Settings) (around : Surroundings) (start : Run) :
    (∀ scripts, Accounted start (executions settings around scripts start)) ∧
      (∀ last commands, Accounted start (steps settings around last commands start).2) ∧
      ∀ scripts script commands, Accounted start (steps settings around .null commands
        (begun script (executions settings around scripts start))).2 := by
  have hstart : Booked (.of start.session) start.world.history start :=
    .refl ⟨start.session.errors, rfl⟩
  have hsteps (last : Value) (commands : List Command) {r : Run}
      (hr : Booked (.of start.session) start.world.history r) :
      Booked (.of start.session) start.world.history
        (steps settings around last commands r).2 := by
    have hrun := booked_steps settings around last commands r hr
    split at hrun <;> next heq => rw [heq]; exact hrun
  refine ⟨fun scripts => (booked_executions scripts hstart).accounted,
    fun last commands => (hsteps last commands hstart).accounted,
    fun scripts script commands => ?_⟩
  exact (hsteps .null commands (booked_begun script (booked_executions scripts hstart))).accounted

end Harvest.Script
