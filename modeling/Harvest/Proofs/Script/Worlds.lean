import Harvest.Proofs.Script.Commands

/-!
What executions do to the world.

An execution asks whether the work is halted before every command and before every attempt of a
fetch, so what it puts on record happens while the work goes on. A property of the token and the
history that is kept by a command, by a fetch and by a halt from outside is therefore kept by every
execution; between its beginning and its end nothing else happens.
-/

namespace Harvest.Script

open Harvest.Rule

def Event.outcome? : Event → Option (Except Fault Value)
  | .ended outcome => some outcome
  | _ => none

def Event.start? : Event → Option (Script × Session)
  | .began script session => some (script, session)
  | _ => none

def Event.isHalt : Event → Bool
  | .halted _ => true
  | _ => false

def Quiet (events : List Event) : Prop :=
  events.filterMap Event.start? = [] ∧ events.filterMap Event.outcome? = []

theorem Quiet.append {events later : List Event} (h : Quiet events) (hlater : Quiet later) :
    Quiet (events ++ later) := by
  simp [Quiet, List.filterMap_append, h.1, h.2, hlater.1, hlater.2]

theorem quiet_of_halts {halts : List Event} (h : ∀ e ∈ halts, e.isHalt = true) : Quiet halts := by
  refine ⟨List.filterMap_eq_nil_iff.mpr fun e he => ?_,
    List.filterMap_eq_nil_iff.mpr fun e he => ?_⟩
  all_goals
    have hhalt := h e he
    cases e <;> first | rfl | cases hhalt

namespace World

/-- A property of the token and the history that executions keep, whoever halts the work. -/
structure Steady (around : Surroundings) (P : World → Prop) : Prop where
  same : ∀ w w', w'.token = w.token → w'.history = w.history → P w → P w'
  command : ∀ w c last, w.isHalted = false → P w → P (w.record (.command c last))
  fetch : ∀ w request, w.isHalted = false → P w → P (w.fetch around request).2
  halt : ∀ w moment reason, around.halt? moment = some reason → P w → P (w.halt reason)

variable {around : Surroundings} {P : World → Prop} {w : World}

theorem interrupt_keeps
    (hhalt : ∀ w moment reason, around.halt? moment = some reason → P w → P (w.halt reason))
    (moment : Moment) (hw : P w) : P (w.interrupt (around.halt? moment)) := by
  cases hmoment : around.halt? moment with
  | none => exact hw
  | some reason => exact hhalt w moment reason hmoment hw

namespace Steady

/-- What a request on record keeps, whether a halt follows or not, a fetch keeps. -/
theorem of_record (hsame : ∀ w w', w'.token = w.token → w'.history = w.history → P w → P w')
    (hcommand : ∀ w c last, w.isHalted = false → P w → P (w.record (.command c last)))
    (hfetched : ∀ w request reply, w.isHalted = false → P w →
      P (w.record (.fetched request reply)))
    (hhalt : ∀ w moment reason, around.halt? moment = some reason → P w → P (w.halt reason)) :
    Steady around P where
  same := hsame
  command := hcommand
  fetch w request hgoing hw :=
    interrupt_keeps hhalt (.fetch w.requests.length) (hfetched w request _ hgoing hw)
  halt := hhalt

variable (h : Steady around P)
include h

theorem poll (hw : P w) : P (w.poll around).2 :=
  h.same (w.interrupt (around.halt? (.poll w.polls))) _ rfl rfl (interrupt_keeps h.halt _ hw)

end Steady

theorem history_halt (w : World) (reason : String) :
    ∃ halts, (w.halt reason).history = w.history ++ halts ∧ ∀ e ∈ halts, e.isHalt = true := by
  unfold World.halt
  split
  · exact ⟨[], (List.append_nil _).symm, by simp⟩
  · exact ⟨[.halted reason], rfl, by simp [Event.isHalt]⟩

/-- While an execution is under way, no other one begins or ends. -/
theorem steady_quiet (earlier : List Event) :
    Steady around fun w => ∃ events, w.history = earlier ++ events ∧ Quiet events := by
  have hrecord (w : World) (e : Event) (he : Quiet [e])
      (hw : ∃ events, w.history = earlier ++ events ∧ Quiet events) :
      ∃ events, (w.record e).history = earlier ++ events ∧ Quiet events := by
    obtain ⟨events, hevents, hquiet⟩ := hw
    exact ⟨_, by rw [record, hevents, List.append_assoc], hquiet.append he⟩
  refine .of_record (fun _ _ _ hhistory hw => hhistory ▸ hw)
    (fun w c last _ => hrecord w (.command c last) ⟨rfl, rfl⟩)
    (fun w request reply _ => hrecord w (.fetched request reply) ⟨rfl, rfl⟩) ?_
  rintro w - reason - ⟨events, hevents, hquiet⟩
  obtain ⟨halts, hlater, hhalts⟩ := history_halt w reason
  exact ⟨_, by rw [hlater, hevents, List.append_assoc], hquiet.append (quiet_of_halts hhalts)⟩

theorem history_poll (w : World) (around : Surroundings) :
    ∃ events, (w.poll around).2.history = w.history ++ events ∧ Quiet events :=
  (steady_quiet w.history).poll ⟨[], (List.append_nil _).symm, rfl, rfl⟩

end World

section Halts

variable {w : World}

theorem reason_eq_none (h : w.isHalted = false) : w.token.reason = none := by
  simpa [World.isHalted, HaltToken.isHalted] using h

theorem isHalted_halt (w : World) (reason : String) : (w.halt reason).isHalted = true := by
  unfold World.halt
  split
  · assumption
  · next hrunning =>
    have hnone := reason_eq_none (Bool.eq_false_iff.mpr hrunning)
    simp [World.isHalted, HaltToken.isHalted, HaltToken.halt, hnone]

theorem reason_halt {reason : String} (h : w.token.reason = some reason) (reason' : String) :
    (w.halt reason').token.reason = some reason := by
  have hhalted : w.isHalted = true := by simp [World.isHalted, HaltToken.isHalted, h]
  rw [World.halt, if_pos hhalted]
  exact h

namespace World

theorem history_interrupt (w : World) (reason : Option String) :
    ∃ halts, (w.interrupt reason).history = w.history ++ halts ∧
      ∀ e ∈ halts, e.isHalt = true := by
  cases reason with
  | none => exact ⟨[], (List.append_nil _).symm, by simp⟩
  | some reason => exact w.history_halt reason

/-- When the token is asked, nothing but a halt may happen. -/
theorem halts_poll (w : World) (around : Surroundings) :
    ∃ halts, (w.poll around).2.history = w.history ++ halts ∧ ∀ e ∈ halts, e.isHalt = true :=
  w.history_interrupt (around.halt? (.poll w.polls))

/-- Where the work goes on after the token was asked, nothing has happened. -/
theorem history_of_going {around : Surroundings} (h : (w.poll around).1 = false) :
    (w.poll around).2.history = w.history := by
  unfold poll interrupt at h ⊢
  split at h
  · next reason _ => exact absurd (isHalted_halt w reason) (Bool.eq_false_iff.mp h)
  · rfl

theorem history_fetch (w : World) (around : Surroundings) (request : Fetch.Request) :
    ∃ halts, (w.fetch around request).2.history =
        w.history ++ .fetched request (w.fetch around request).1 :: halts ∧
      ∀ e ∈ halts, e.isHalt = true := by
  unfold fetch
  obtain ⟨halts, hhalts, hall⟩ := history_interrupt (w.record (.fetched request _)) _
  exact ⟨halts, hhalts.trans (List.append_assoc _ _ _), hall⟩

end World

end Halts

open World

/-- Nothing halts the work between the question of an attempt and its request. -/
theorem answered_keeps {settings : Settings} {around : Surroundings} {P : World → Prop}
    (h : Steady around P) {request : Fetch.Request} {r : Run} (hr : P r.world)
    (hgoing : (r.world.poll around).1 = false) : P (answered settings around request r).2 := by
  refine h.fetch _ _ ?_ (h.same (r.world.poll around).2 _ (token_write _ _ _ _)
    (history_write _ _ _ _) (h.poll hr))
  rw [isHalted, token_write]
  exact hgoing

section Actions

variable (settings : Settings) {around : Surroundings} {P : World → Prop} (h : Steady around P)
include h

/-- Commands other than fetches keep what is steady, and their faults are recoverable. -/
theorem robust_world : Robust settings (fun r => P r.world)
    fun fault r => fault.isFatal = false ∧ P r.world where
  same _ _ _ _ htoken hhistory hr := h.same _ _ htoken hhistory hr
  fail _ _ := triple_fail (fun _ hr _ => hr) fun _ hr _ => ⟨rfl, hr⟩

/-- What each command keeps. -/
theorem keeps_step (c : Command) (last : Value) :
    Keeps (fun r : Run => P r.world) (·.isFatal = false) (step settings around c last) := by
  have hrobust := robust_world settings h
  cases hc : c.isFetch with
  | false => exact robust_step hrobust hc last
  | true =>
      cases c with
      | fetch command =>
          refine triple_fetched hrobust.fail (fun _ hr => hr) (fun request address => ?_) command
            last
          exact triple_attempts (fun r hr _ => h.poll hr)
            (fun _ _ hr hgoing _ => answered_keeps h hr hgoing)
            (fun _ _ hr hgoing _ => answered_keeps h hr hgoing) (hrobust.fail "fetch")
      | _ => cases hc

theorem keeps_steps (last : Value) (commands : List Command) :
    Keeps (fun r : Run => P r.world) (·.isFatal = false)
      (steps settings around last commands) :=
  triple_steps (P := fun _ r => P r.world) (fun _ _ hr => hr) (fun _ _ hr _ => h.poll hr)
    (fun c _ last _ hr hgoing => (keeps_step settings h c last).imp
      (fun _ heq => heq ▸ h.command _ c last hgoing (h.poll hr)) (fun _ _ hr => hr)
      fun _ _ hr => hr) last commands

/-- Between its beginning and its end an execution keeps what is steady; what it ends with is put on
record, and its fault, if it has one, is recoverable. -/
theorem execute_keeps (script : Script) (start : Run)
    (hstart : P (start.world.record (.began script start.session))) :
    ∃ w, P w ∧ (execute settings around script start).2.world.token = w.token ∧
      (execute settings around script start).2.world.history =
        w.history ++ [.ended (execute settings around script start).1] ∧
      ∀ fault, (execute settings around script start).1 = .error fault → fault.isFatal = false := by
  obtain ⟨outcome, r, w, hsteps, hexecute, htoken, hhistory⟩ :=
    execute_apply settings around script start
  have hkeeps := keeps_steps settings h .null script.commands (begun script start)
    (h.same (start.world.record (.began script start.session)) _ rfl rfl hstart)
  rw [hsteps] at hkeeps
  rw [hexecute]
  cases outcome with
  | ok v => exact ⟨r.world, hkeeps, htoken, hhistory, nofun⟩
  | error fault =>
      refine ⟨r.world, hkeeps.2, htoken, hhistory, ?_⟩
      rintro _ ⟨⟩
      exact hkeeps.1

end Actions

/-- An execution puts its own beginning and its own end on record, and no other one's. -/
theorem history_execute (settings : Settings) (around : Surroundings) (script : Script)
    (start : Run) :
    ∃ events, (execute settings around script start).2.world.history =
        start.world.history ++ events ∧
      events.filterMap Event.start? = [(script, start.session)] ∧
      events.filterMap Event.outcome? = [(execute settings around script start).1] := by
  obtain ⟨w, ⟨events, hevents, hstarts, houtcomes⟩, -, hhistory, -⟩ := execute_keeps settings
    (steady_quiet (start.world.record (.began script start.session)).history) script start
    ⟨[], (List.append_nil _).symm, rfl, rfl⟩
  refine ⟨.began script start.session :: events ++ [.ended (execute settings around script start).1],
    ?_, ?_, ?_⟩
  · rw [hhistory, hevents, record, List.append_assoc, List.append_assoc, List.singleton_append,
      List.cons_append]
  · simp [List.filterMap_append, Event.start?, hstarts]
  · simp [List.filterMap_append, List.filterMap_cons, Event.outcome?, houtcomes]

/-- No execution ends in a fatal fault. -/
theorem isFatal_of_execute {settings : Settings} {around : Surroundings} {script : Script}
    {start : Run} {fault : Fault} {r : Run}
    (h : execute settings around script start = (.error fault, r)) : fault.isFatal = false := by
  have hanything : Steady around fun _ => True :=
    { same := fun _ _ _ _ _ => trivial
      command := fun _ _ _ _ _ => trivial
      fetch := fun _ _ _ _ => trivial
      halt := fun _ _ _ _ _ => trivial }
  obtain ⟨_, -, -, -, hrecoverable⟩ := execute_keeps settings hanything script start trivial
  exact hrecoverable fault (by rw [h])

end Harvest.Script
