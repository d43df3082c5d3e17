import Harvest.Proofs.Script.Worlds

/-!
How many errors an execution may have.

Every request that fails is an error, and so is every other command that fails. An execution that
has more errors than the settings forgive ends at once, in a recoverable fault, so it ends with one
error more at most. This bounds the requests: a fetch sends another one only after an error.
-/

namespace Harvest.Script

open Harvest.Rule

def Event.isSuccess : Event → Bool
  | .fetched _ reply => (successOf reply).isOk
  | _ => false

/-- Whether an event is a request that got no answer, or one that is no success. -/
def Event.isFailure : Event → Bool
  | .fetched _ reply => !(successOf reply).isOk
  | _ => false

theorem count_of_halts {halts : List Event} (h : ∀ e ∈ halts, e.isHalt = true) :
    halts.countP Event.isSuccess = 0 ∧ halts.countP Event.isFailure = 0 := by
  have hneither (e : Event) (he : e.isHalt = true) : e.isSuccess ≠ true ∧ e.isFailure ≠ true := by
    cases e <;> first | exact ⟨Bool.false_ne_true, Bool.false_ne_true⟩ | cases he
  exact ⟨List.countP_eq_zero.mpr fun e he => (hneither e (h e he)).1,
    List.countP_eq_zero.mpr fun e he => (hneither e (h e he)).2⟩

/-- A request is a success or a failure. -/
theorem count_answer {halts : List Event} (h : ∀ e ∈ halts, e.isHalt = true)
    (request : Fetch.Request) (reply : Except Fetch.Error Fetch.Response) :
    (.fetched request reply :: halts).countP Event.isSuccess = (successOf reply).isOk.toNat ∧
      (.fetched request reply :: halts).countP Event.isFailure =
        (!(successOf reply).isOk).toNat := by
  rw [List.countP_cons, List.countP_cons, (count_of_halts h).1, (count_of_halts h).2]
  cases hok : (successOf reply).isOk <;> simp [Event.isSuccess, Event.isFailure, hok]

/-- Requests and halts; the requests that succeed are some at most. -/
structure Attempted (successes : Nat) (events : List Event) : Prop where
  requests : ∀ e ∈ events, e.isHalt = true ∨ e.request?.isSome = true
  count : events.countP Event.isSuccess ≤ successes

namespace Attempted

variable {n m : Nat} {events later : List Event}

theorem mono (h : Attempted n events) (hle : n ≤ m) : Attempted m events :=
  ⟨h.requests, Nat.le_trans h.count hle⟩

theorem append (h : Attempted n events) (hlater : Attempted m later) :
    Attempted (n + m) (events ++ later) where
  requests e he := (List.mem_append.mp he).elim (h.requests e) (hlater.requests e)
  count := by
    rw [List.countP_append]
    exact Nat.add_le_add h.count hlater.count

theorem of_halts (h : ∀ e ∈ later, e.isHalt = true) : Attempted 0 later :=
  ⟨fun e he => .inl (h e he), Nat.le_of_eq (count_of_halts h).1⟩

theorem answer (h : ∀ e ∈ later, e.isHalt = true) (request : Fetch.Request)
    (reply : Except Fetch.Error Fetch.Response) :
    Attempted (successOf reply).isOk.toNat (.fetched request reply :: later) where
  requests := by
    rintro e (_ | ⟨_, he⟩)
    · exact .inr rfl
    · exact .inl (h e he)
  count := Nat.le_of_eq (count_answer h request reply).1

end Attempted

/-- A command that has begun on the value at hand, and what is on record until the next one begins
or the execution is over. -/
structure Turn where
  command : Command
  last : Value
  events : List Event

namespace Turn

def history (t : Turn) : List Event := .command t.command t.last :: t.events

theorem count_history (t : Turn) :
    t.history.countP Event.isFailure = t.events.countP Event.isFailure :=
  List.countP_cons_of_neg Bool.false_ne_true

/-- Only fetches send requests, and no fetch has two that succeed. -/
structure Modest (t : Turn) : Prop where
  attempted : Attempted 1 t.events
  others : t.command.isFetch = false → t.events = []

end Turn

/-- Since the start no page has been counted, and every request that failed has been counted as an
error, save some that are still owed. -/
structure Spent (F : List Event → Prop) (owed : Nat) (start r : Run) : Prop where
  page : r.session.page = start.session.page
  recorded : ∃ events, r.world.history = start.world.history ++ events ∧ F events ∧
    start.session.errors + events.countP Event.isFailure ≤ r.session.errors + owed

namespace Spent

variable {F G : List Event → Prop} {owed owed' : Nat} {start r r' : Run}

theorem refl (h : F []) (r : Run) : Spent F owed r r :=
  ⟨rfl, [], (List.append_nil _).symm, h, Nat.le_add_right _ _⟩

theorem imp (h : Spent F owed start r) (hFG : ∀ events, F events → G events) :
    Spent G owed start r := by
  obtain ⟨hpage, events, hevents, hF, hcount⟩ := h
  exact ⟨hpage, events, hevents, hFG events hF, hcount⟩

/-- More events, and the errors that they are. -/
theorem append (h : Spent F owed start r) (hpage : r'.session.page = r.session.page)
    {later : List Event} (hlater : r'.world.history = r.world.history ++ later)
    (hG : ∀ events, F events → G (events ++ later))
    (hcount : r.session.errors + owed + later.countP Event.isFailure ≤
      r'.session.errors + owed') : Spent G owed' start r' := by
  obtain ⟨hpage', events, hevents, hF, hcount'⟩ := h
  refine ⟨hpage.trans hpage', events ++ later, ?_, hG events hF, ?_⟩
  · rw [hlater, hevents, List.append_assoc]
  · rw [List.countP_append]
    omega

/-- No more events, whatever errors there are. -/
theorem same (h : Spent F owed start r) (hpage : r'.session.page = r.session.page)
    (hhistory : r'.world.history = r.world.history)
    (hcount : r.session.errors + owed ≤ r'.session.errors + owed') : Spent F owed' start r' :=
  h.append hpage (hhistory.trans (List.append_nil _).symm)
    (fun events hF => (List.append_nil events).symm ▸ hF) hcount

end Spent

structure Forgiven (settings : Settings) (F : List Event → Prop) (owed : Nat) (start r : Run) :
    Prop where
  spent : Spent F owed start r
  errors : r.session.errors ≤ settings.maxErrors

structure Exceeded (settings : Settings) (F : List Event → Prop) (start : Run) (fault : Fault)
    (r : Run) : Prop where
  spent : Spent F 0 start r
  errors : r.session.errors = settings.maxErrors + 1
  recoverable : ∃ reason, fault = .recoverable reason

theorem Forgiven.imp {settings : Settings} {F G : List Event → Prop} {owed : Nat} {start r : Run}
    (h : Forgiven settings F owed start r) (hFG : ∀ events, F events → G events) :
    Forgiven settings G owed start r :=
  ⟨h.spent.imp hFG, h.errors⟩

theorem Exceeded.imp {settings : Settings} {F G : List Event → Prop} {start r : Run}
    {fault : Fault} (h : Exceeded settings F start fault r) (hFG : ∀ events, F events → G events) :
    Exceeded settings G start fault r :=
  ⟨h.spent.imp hFG, h.errors, h.recoverable⟩

section Commands

variable {settings : Settings} {around : Surroundings} {F G : List Event → Prop} {start : Run}

/-- An error is forgiven, or it is one too much. -/
theorem forgiven_fail (hFG : ∀ events, F events → G events) (step message : String) :
    Triple (Forgiven settings F 1 start) (fail settings step message)
      (fun _ => Forgiven settings F 0 start) (Exceeded settings G start) := by
  have hcounted {r : Run} (hspent : Spent F 1 start r) :
      Spent F 0 start { r with session := r.session.recordError } :=
    hspent.same rfl rfl (Nat.le_refl _)
  refine triple_fail ?_ ?_
  · rintro r ⟨hspent, -⟩ hsome
    have hmore : r.session.errors < settings.maxErrors := Nat.lt_of_sub_ne_zero hsome
    exact ⟨hcounted hspent, hmore⟩
  · rintro r ⟨hspent, herrors⟩ hnone
    -- So far no more errors than are allowed, so the first one too much is exactly one too much.
    have hall : settings.maxErrors ≤ r.session.errors := Nat.le_of_sub_eq_zero hnone
    exact ⟨(hcounted hspent).imp hFG, congrArg Nat.succ (Nat.le_antisymm herrors hall), _, rfl⟩

theorem robust_forgiven (hFG : ∀ events, F events → G events) :
    Robust settings (Forgiven settings F 0 start) (Exceeded settings G start) where
  same _ _ hpage herrors _ hhistory hr :=
    ⟨hr.spent.same hpage hhistory (Nat.le_of_eq herrors.symm), herrors ▸ hr.errors⟩
  fail step message := (forgiven_fail hFG step message).imp
    (fun _ hr => ⟨hr.spent.same rfl rfl (Nat.le_succ _), hr.errors⟩)
    (fun _ _ hr => hr) fun _ _ hr => hr

/-- An attempt puts its request on record, and a halt that comes before the answer. -/
theorem history_answered (settings : Settings) (request : Fetch.Request) {r : Run}
    (h : (r.world.poll around).1 = false) :
    ∃ halts, (answered settings around request r).2.history = r.world.history ++
        .fetched (withCookiesOf request r.session) (answered settings around request r).1 :: halts ∧
      ∀ e ∈ halts, e.isHalt = true := by
  obtain ⟨halts, hhalts, hall⟩ := World.history_fetch _ around (withCookiesOf request r.session)
  refine ⟨halts, hhalts.trans ?_, hall⟩
  rw [World.history_write]
  exact congrArg (· ++ _) (World.history_of_going h)

/-- After an attempt its answer is the only success, or an error that is owed. -/
theorem spent_answered (settings : Settings) (request : Fetch.Request) {r : Run}
    (h : Spent (Attempted 0) 0 start r)
    (hgoing : (r.world.poll around).1 = false) {s : Session} (hpage : s.page = r.session.page)
    (herrors : s.errors = r.session.errors) :
    let ok := (successOf (answered settings around request r).1).isOk
    Spent (Attempted ok.toNat) (!ok).toNat start ⟨s, (answered settings around request r).2⟩ := by
  obtain ⟨halts, hhistory, hhalts⟩ := history_answered settings request hgoing
  refine h.append hpage hhistory (fun events hevents => ?_) ?_
  · rw [← Nat.zero_add (Bool.toNat _)]
    exact hevents.append (.answer hhalts _ _)
  · rw [herrors]
    exact Nat.le_of_eq (congrArg (r.session.errors + 0 + ·) (count_answer hhalts _ _).2)

/-- The attempts of a fetch: every error is counted, and a success is the last one. -/
theorem forgiven_attempts (request : Fetch.Request) (address : Url) :
    Triple (Forgiven settings (Attempted 0) 0 start) (attempts settings around request address)
      (fun _ => Forgiven settings (Attempted 1) 0 start)
      (Exceeded settings (Attempted 1) start) := by
  refine triple_attempts (M := Forgiven settings (Attempted 0) 1 start) ?_ ?_ ?_ ?_
  · intro r hr _
    obtain ⟨halts, hhistory, hhalts⟩ := r.world.halts_poll around
    refine ⟨hr.spent.append rfl hhistory (fun events hevents => ?_) ?_, hr.errors⟩
    · exact (hevents.append (.of_halts hhalts)).mono (Nat.zero_le 1)
    · exact Nat.le_of_eq (congrArg (r.session.errors + 0 + ·) (count_of_halts hhalts).2)
  · intro r response hr hgoing hreply
    have hspent := spent_answered settings request hr.spent hgoing
      (page_received r.session address response) (errors_received _ _ _)
    rw [hreply] at hspent
    exact ⟨hspent, Nat.le_trans (Nat.le_of_eq (errors_received _ _ _)) hr.errors⟩
  · intro r e hr hgoing hreply
    have hspent := spent_answered settings request hr.spent hgoing (s := r.session)
      rfl rfl
    rw [hreply] at hspent
    exact ⟨hspent, hr.errors⟩
  · exact forgiven_fail (fun _ hevents => hevents.mono (Nat.zero_le 1)) "fetch"

/-- Whatever a command puts on record is a modest turn. -/
theorem forgiven_step (start : Run) (hstart : start.session.errors ≤ settings.maxErrors)
    (c : Command) (last : Value) :
    let modest (events : List Event) : Prop := (Turn.mk c last events).Modest
    Triple (Eq start) (step settings around c last) (fun _ => Forgiven settings modest 0 start)
      (Exceeded settings modest start) := by
  intro modest
  have hmore (events : List Event) (h : Attempted 0 events) : Attempted 1 events :=
    h.mono (Nat.zero_le 1)
  have hnothing : Attempted 0 [] := .of_halts (by simp)
  -- A fetch puts its attempts on record, any other command nothing at all.
  cases c with
  | fetch command =>
      have hmodest (events : List Event) (h : Attempted 1 events) : modest events := ⟨h, nofun⟩
      refine (triple_fetched (robust_forgiven hmore).fail
        (fun _ hr => hr.imp hmore) forgiven_attempts command last).imp ?_
        (fun _ r hr => hr.imp hmodest) fun _ r hr => hr.imp hmodest
      rintro _ rfl
      exact ⟨.refl hnothing _, hstart⟩
  | _ =>
      have hmodest (events : List Event) (h : [] = events) : modest events :=
        h ▸ ⟨hmore [] hnothing, fun _ => rfl⟩
      refine (robust_step (robust_forgiven hmodest) rfl last).imp ?_
        (fun _ r hr => hr.imp hmodest) fun _ _ hr => hr
      rintro _ rfl
      exact ⟨.refl rfl _, hstart⟩

end Commands

/-- The turns of an execution since it began, and the halts behind them. -/
structure Ran (start : Run) (turns : List Turn) (halts : List Event) (r : Run) : Prop where
  page : r.session.page = start.session.page
  history : r.world.history = start.world.history ++ turns.flatMap Turn.history ++ halts
  halts : ∀ e ∈ halts, e.isHalt = true
  modest : ∀ t ∈ turns, t.Modest
  failures : start.session.errors + (turns.flatMap Turn.history).countP Event.isFailure ≤
    r.session.errors

namespace Ran

variable {start r r' : Run} {turns : List Turn}

theorem refl (r : Run) : Ran r [] [] r where
  page := rfl
  history := by simp
  halts := by simp
  modest := by simp
  failures := Nat.le_refl _

/-- One more turn. -/
theorem turn (h : Ran start turns [] r) {around : Surroundings}
    (hgoing : (r.world.poll around).1 = false) {c : Command} {last : Value}
    (hturn : Spent (fun events => (Turn.mk c last events).Modest) 0
      ⟨r.session, (r.world.poll around).2.record (.command c last)⟩ r') :
    ∃ events, Ran start (turns ++ [⟨c, last, events⟩]) [] r' := by
  obtain ⟨hpage, events, hevents, hmodest, hcount⟩ := hturn
  refine ⟨events, hpage.trans h.page, ?_, by simp, ?_, ?_⟩
  · rw [hevents, World.record, World.history_of_going hgoing, h.history]
    simp [Turn.history, List.append_assoc]
  · intro t ht
    obtain ht | ht := List.mem_append.mp ht
    · exact h.modest t ht
    · exact List.mem_singleton.mp ht ▸ hmodest
  · rw [List.flatMap_append, List.flatMap_singleton, List.countP_append, Turn.count_history,
      ← Nat.add_assoc]
    exact Nat.le_trans (Nat.add_le_add_right h.failures _) hcount

/-- The work is halted before another command begins. -/
theorem halted (h : Ran start turns [] r) (around : Surroundings) :
    ∃ halts, Ran start turns halts ⟨r.session, (r.world.poll around).2⟩ := by
  obtain ⟨halts, hhistory, hhalts⟩ := r.world.halts_poll around
  refine ⟨halts, h.page, hhistory.trans ?_, hhalts, h.modest, h.failures⟩
  rw [h.history, List.append_nil]

end Ran

/-- Some first ones of the commands have had their turns since the start. -/
def RanOf (commands : List Command) (start r : Run) : Prop :=
  ∃ turns halts, turns.map Turn.command <+: commands ∧ Ran start turns halts r

/-- Commands have their turns in order, and their errors are forgiven save one that is too much. -/
theorem ran_steps {settings : Settings} (around : Surroundings) {start : Run}
    (hstart : start.session.errors ≤ settings.maxErrors) (last : Value) (commands : List Command) :
    Triple (Eq start) (steps settings around last commands)
      (fun _ r => RanOf commands start r ∧ r.session.errors ≤ settings.maxErrors)
      fun fault r => RanOf commands start r ∧ r.session.errors = settings.maxErrors + 1 ∧
        ∃ reason, fault = .recoverable reason := by
  -- The turns so far, with the commands that are left, are all commands.
  let Left (left : List Command) (r : Run) : Prop :=
    (∃ turns, turns.map Turn.command ++ left = commands ∧ Ran start turns [] r) ∧
      r.session.errors ≤ settings.maxErrors
  refine (triple_steps (P := Left) ?_ ?_ ?_ last commands).imp ?_ (fun _ _ hr => hr)
    fun _ _ hr => hr
  · rintro left r ⟨⟨turns, hall, hran⟩, herrors⟩
    exact ⟨⟨turns, [], ⟨left, hall⟩, hran⟩, herrors⟩
  · rintro left r ⟨⟨turns, hall, hran⟩, herrors⟩ -
    obtain ⟨halts, hhalted⟩ := hran.halted around
    exact ⟨⟨turns, halts, ⟨left, hall⟩, hhalted⟩, herrors⟩
  · rintro c left last r ⟨⟨turns, hall, hran⟩, herrors⟩ hgoing
    let begun : Run := ⟨r.session, (r.world.poll around).2.record (.command c last)⟩
    -- A command that is through has had its turn, whether it ends in a value or in a fault.
    have hturn {r' : Run}
        (hspent : Spent (fun events => (Turn.mk c last events).Modest) 0 begun r') :
        ∃ turns, turns.map Turn.command ++ left = commands ∧ Ran start turns [] r' := by
      obtain ⟨events, hran'⟩ := hran.turn hgoing hspent
      refine ⟨_, ?_, hran'⟩
      rw [List.map_append, List.append_assoc]
      exact hall
    refine (forgiven_step begun herrors c last).imp (fun _ hr => hr)
      (fun _ r' hr => ⟨hturn hr.spent, hr.errors⟩) fun _ r' hr => ⟨?_, hr.errors, hr.recoverable⟩
    obtain ⟨turns', hall', hran'⟩ := hturn hr.spent
    exact ⟨turns', [], ⟨left, hall'⟩, hran'⟩
  · rintro _ rfl
    exact ⟨⟨[], rfl, .refl _⟩, hstart⟩

/-- The events of an execution: its beginning, the turns of the first ones of its commands, each of
them once, and its end. -/
structure Turns (script : Script) (start : Run) (outcome : Except Fault Value)
    (turns : List Turn) (events : List Event) : Prop where
  history : ∃ halts, events = .began script start.session :: turns.flatMap Turn.history ++
    (halts ++ [.ended outcome]) ∧ ∀ e ∈ halts, e.isHalt = true
  commands : turns.map Turn.command <+: script.commands
  modest : ∀ t ∈ turns, t.Modest

theorem RanOf.turns {script : Script} {start r : Run}
    (h : RanOf script.commands (begun script start) r) {outcome : Except Fault Value} {w : World}
    (hw : w.history = r.world.history ++ [.ended outcome]) :
    ∃ turns events, w.history = start.world.history ++ events ∧
      Turns script start outcome turns events ∧
      events.countP Event.isFailure ≤ r.session.errors := by
  obtain ⟨turns, halts, hcommands, hran⟩ := h
  refine ⟨turns, _, ?_, ⟨⟨halts, rfl, hran.halts⟩, hcommands, hran.modest⟩, ?_⟩
  · rw [hw, hran.history]
    simp [begun, World.draw, World.record, List.append_assoc]
  · have hfailures : 0 + _ ≤ r.session.errors := hran.failures
    rw [Nat.zero_add] at hfailures
    rw [List.countP_append, List.countP_cons_of_neg Bool.false_ne_true, List.countP_append,
      (count_of_halts hran.halts).2, List.countP_cons_of_neg Bool.false_ne_true]
    exact hfailures

theorem phaseOf_eq_done {outcome : Except Fault Value} :
    phaseOf outcome = .done ↔ ∃ v, outcome = .ok v ∧ v ≠ .null := by
  cases outcome with
  | error fault => exact ⟨nofun, nofun⟩
  | ok v => cases v <;> simp [phaseOf, Value.isNull]

theorem phaseOf_eq_aborted {outcome : Except Fault Value} (h : phaseOf outcome ≠ .done) :
    phaseOf outcome = .aborted := by
  unfold phaseOf at h ⊢
  split at h
  · split at h <;> simp_all
  · rfl

structure WithinCeiling (settings : Settings) (script : Script) (start : Run)
    (outcome : Except Fault Value) (stop : Run) : Prop where
  fault_iff : (∃ fault, outcome = .error fault) ↔ stop.session.errors = settings.maxErrors + 1
  recoverable : ∀ fault, outcome = .error fault → ∃ reason, fault = .recoverable reason
  forgiven : ∀ v, outcome = .ok v → stop.session.errors ≤ settings.maxErrors
  page : stop.session.page = start.session.page + 1
  done_iff : stop.session.phase = .done ↔ ∃ v, outcome = .ok v ∧ v ≠ .null
  aborted : stop.session.phase ≠ .done → stop.session.phase = .aborted
  turns : ∃ turns events, stop.world.history = start.world.history ++ events ∧
    Turns script start outcome turns events ∧
    events.countP Event.isFailure ≤ settings.maxErrors + 1

/-- The attempts of every fetch are over after one round more than errors are forgiven, whatever
would follow them. -/
def AttemptsEnd (settings : Settings) (around : Surroundings) : Prop :=
  ∀ (c : FetchCommand) (last : Value) (r : Run) (address : Url),
    c.runsOn r.session.page = true → target r.session c last = .ok address →
    ∀ (again : Execution Value) (n : Nat), settings.maxErrors - r.session.errors < n →
      (attemptThen settings around (requestOf r.session c address) address)^[n] again r =
        fetched settings around c last r

/-- Executions end, and in a fault exactly if they had more errors than the settings forgive. -/
theorem execute_within_ceiling (settings : Settings) (around : Surroundings) (script : Script)
    (start : Run) :
    WithinCeiling settings script start (execute settings around script start).1
        (execute settings around script start).2 ∧
      AttemptsEnd settings around := by
  refine ⟨?_, fun c last r address hruns htarget again n hn => ?_⟩
  · obtain ⟨outcome, r, w, hsteps, hexecute, -, hhistory⟩ :=
      execute_apply settings around script start
    have hends := ran_steps around (Nat.zero_le settings.maxErrors) .null script.commands
      (begun script start) rfl
    rw [hsteps] at hends
    rw [hexecute]
    have hran : RanOf script.commands (begun script start) r ∧
        r.session.errors ≤ settings.maxErrors + 1 := by
      cases outcome with
      | ok v => exact ⟨hends.1, Nat.le_succ_of_le hends.2⟩
      | error fault => exact ⟨hends.1, Nat.le_of_eq hends.2.1⟩
    obtain ⟨turns, events, hevents, hturns, hcount⟩ := hran.1.turns hhistory
    obtain ⟨_, _, _, hran'⟩ := hran.1
    refine ⟨?_, ?_, ?_, congrArg Nat.succ hran'.page, phaseOf_eq_done, phaseOf_eq_aborted,
      turns, events, hevents, hturns, Nat.le_trans hcount hran.2⟩
    · cases outcome with
      | ok v => exact ⟨nofun, fun hover => absurd (hover ▸ hends.2) (Nat.not_succ_le_self _)⟩
      | error fault => exact ⟨fun _ => hends.2.1, fun _ => ⟨fault, rfl⟩⟩
    · rintro fault rfl
      exact hends.2.2
    · rintro v rfl
      exact hends.2
  · rw [fetched_eq_attempts hruns htarget]
    exact iterate_attemptThen again hn

end Harvest.Script
