import Harvest.Proofs.Script.Ceiling
import Harvest.Proofs.Script.LogFree
import Mathlib

/-!
What the log tells.

A log that can be written has an entry for every request, for every structured node and every value
that is saved, and for every execution that ended with a value. The number of an execution is drawn
when it begins and used when it ends, after all those that its commands draw; even so no number
comes twice, and the entries of each kind are in the order of their numbers.

Executions may follow one another in any sequence, each with a session, a halt token and settings of
its own; they share the numbers and the log.
-/

namespace Harvest.Script

open Harvest.Rule

def valueText (v : Value) : String := v.toJson.pretty 0

def Event.structured? : Event → Option Markup.NodeRef
  | .command .structured (.node n) => some n
  | _ => none

def Event.saved? : Event → Option Value
  | .command .save last => some last
  | _ => none

/-- What an event leaves in the log, if it leaves anything there. -/
def Event.logged? : Event → Option (LogKind × String)
  | .fetched request _ => some (.url, request.describe)
  | .command .structured (.node n) => some (.structured, n.toMarkup)
  | .command .save last => some (.save, valueText last)
  | .ended (.ok v) => some (.result, valueText v)
  | _ => none

namespace LogEntry

def content (e : LogEntry) : LogKind × String := (e.kind, e.text)

/-- Entries have different numbers, and those of one kind are in order. -/
def Before (a b : LogEntry) : Prop := a.number ≠ b.number ∧ (a.kind = b.kind → a.number < b.number)

end LogEntry

/-- The texts of the entries of a kind, in the order in which they were written. -/
def textsOf (kind : LogKind) (entries : List LogEntry) : List String :=
  (entries.filter (·.kind = kind)).map LogEntry.text

/-- Between two worlds these entries were logged and these events put on record. -/
structure Logged (start stop : World) (entries : List LogEntry) (events : List Event) : Prop where
  log : stop.log = start.log ++ entries
  history : stop.history = start.history ++ events
  contents : entries.map LogEntry.content = events.filterMap Event.logged?
  drawn : start.drawn ≤ stop.drawn
  numbers : ∀ e ∈ entries, start.drawn ≤ e.number ∧ e.number < stop.drawn
  ordered : entries.Pairwise LogEntry.Before

namespace Logged

variable {start w stop : World} {entries later : List LogEntry} {events next : List Event}

theorem trans (h : Logged start w entries events) (h' : Logged w stop later next) :
    Logged start stop (entries ++ later) (events ++ next) where
  log := by rw [h'.log, h.log, List.append_assoc]
  history := by rw [h'.history, h.history, List.append_assoc]
  contents := by rw [List.map_append, List.filterMap_append, h.contents, h'.contents]
  drawn := Nat.le_trans h.drawn h'.drawn
  numbers e he := by
    obtain he | he := List.mem_append.mp he
    · exact ⟨(h.numbers e he).1, Nat.lt_of_lt_of_le (h.numbers e he).2 h'.drawn⟩
    · exact ⟨Nat.le_trans h.drawn (h'.numbers e he).1, (h'.numbers e he).2⟩
  ordered := by
    refine List.pairwise_append.mpr ⟨h.ordered, h'.ordered, fun a ha b hb => ?_⟩
    have hlt : a.number < b.number := Nat.lt_of_lt_of_le (h.numbers a ha).2 (h'.numbers b hb).1
    exact ⟨Nat.ne_of_lt hlt, fun _ => hlt⟩

/-- Events that leave nothing in the log, whether numbers are drawn or not. -/
theorem silent (hlog : stop.log = start.log) (hdrawn : start.drawn ≤ stop.drawn)
    (hhistory : stop.history = start.history ++ events)
    (hsilent : events.filterMap Event.logged? = []) : Logged start stop [] events where
  log := hlog.trans (List.append_nil _).symm
  history := hhistory
  contents := hsilent.symm
  drawn := hdrawn
  numbers := by simp
  ordered := .nil

/-- An entry under a number of its own. -/
theorem entry {kind : LogKind} {text : String}
    (hlog : stop.log = start.log ++ [⟨start.drawn, kind, text⟩])
    (hdrawn : stop.drawn = start.drawn + 1) (hhistory : stop.history = start.history ++ events)
    (hlogged : events.filterMap Event.logged? = [(kind, text)]) :
    Logged start stop [⟨start.drawn, kind, text⟩] events where
  log := hlog
  history := hhistory
  contents := hlogged.symm
  drawn := hdrawn ▸ Nat.le_succ _
  numbers := by simp [hdrawn]
  ordered := List.pairwise_singleton _ _

/-- The entry of a result, under a number that was drawn before those of the other entries. -/
theorem result (h : Logged start w entries events) (text : String) (next : List Event)
    (hothers : ∀ e ∈ entries, start.drawn < e.number ∧ e.kind ≠ .result)
    (hearlier : start.drawn < w.drawn)
    (hlog : stop.log = w.log ++ [⟨start.drawn, .result, text⟩]) (hdrawn : stop.drawn = w.drawn)
    (hhistory : stop.history = w.history ++ next)
    (hlogged : next.filterMap Event.logged? = [(.result, text)]) :
    Logged start stop (entries ++ [⟨start.drawn, .result, text⟩]) (events ++ next) where
  log := by rw [hlog, h.log, List.append_assoc]
  history := by rw [hhistory, h.history, List.append_assoc]
  contents := by
    rw [List.map_append, List.filterMap_append, h.contents, hlogged]
    rfl
  drawn := hdrawn ▸ h.drawn
  numbers := by
    rw [hdrawn]
    exact List.forall_mem_append.mpr
      ⟨h.numbers, List.forall_mem_singleton.mpr ⟨Nat.le_refl _, hearlier⟩⟩
  ordered := by
    refine List.pairwise_append.mpr ⟨h.ordered, List.pairwise_singleton _ _, fun a ha b hb => ?_⟩
    obtain rfl := List.mem_singleton.mp hb
    obtain ⟨hlater, hkind⟩ := hothers a ha
    exact ⟨Nat.ne_of_gt hlater, fun hsame => absurd hsame hkind⟩

end Logged

theorem filterMap_logged_of_halts {halts : List Event} (h : ∀ e ∈ halts, e.isHalt = true) :
    halts.filterMap Event.logged? = [] := by
  refine List.filterMap_eq_nil_iff.mpr fun e he => ?_
  have hhalt := h e he
  cases e <;> first | rfl | cases hhalt

namespace World

/-- A halt leaves the log and its numbers as they are. -/
theorem log_interrupt (w : World) (reason : Option String) :
    (w.interrupt reason).log = w.log ∧ (w.interrupt reason).drawn = w.drawn := by
  unfold interrupt halt
  split
  · split <;> exact ⟨rfl, rfl⟩
  · exact ⟨rfl, rfl⟩

theorem drawn_write (w : World) (folder : Option String) (writable : Bool) (entry : LogEntry) :
    (w.write folder writable entry).drawn = w.drawn := by
  cases folder <;> rfl

theorem log_poll (w : World) (around : Surroundings) :
    (w.poll around).2.log = w.log ∧ (w.poll around).2.drawn = w.drawn :=
  w.log_interrupt (around.halt? (.poll w.polls))

theorem log_fetch (w : World) (around : Surroundings) (request : Fetch.Request) :
    (w.fetch around request).2.log = w.log ∧ (w.fetch around request).2.drawn = w.drawn :=
  (w.record (.fetched request (around.reply w.requests.length request))).log_interrupt
    (around.halt? (.fetch w.requests.length))

end World

/-- What is written to a log that can be written is in it. -/
theorem log_write {settings : Settings} {around : Surroundings} (hlogs : logs settings around = true)
    (w : World) (entry : LogEntry) :
    (w.write settings.logFolder around.logWritable entry).log = w.log ++ [entry] := by
  obtain ⟨hfolder, hwritable⟩ := Bool.and_eq_true_iff.mp hlogs
  obtain ⟨folder, hfolder⟩ := Option.isSome_iff_exists.mp hfolder
  rw [hfolder, hwritable]
  rfl

/-- Since the start the log has been kept, and no execution has ended. -/
def LogKept (start w : World) : Prop :=
  ∃ entries events, Logged start w entries events ∧ ∀ e ∈ entries, e.kind ≠ .result

abbrev KeepsLog {α : Type} (start : World) (x : Execution α) : Prop :=
  Triple (fun r => LogKept start r.world) x (fun _ r => LogKept start r.world)
    fun _ r => LogKept start r.world

section Running

variable {settings : Settings} {around : Surroundings} {start w w' : World}

namespace LogKept

theorem refl (w : World) : LogKept w w :=
  ⟨[], [], .silent rfl (Nat.le_refl _) (List.append_nil _).symm rfl, by simp⟩

theorem silent (h : LogKept start w) {events : List Event} (hlog : w'.log = w.log)
    (hdrawn : w'.drawn = w.drawn) (hhistory : w'.history = w.history ++ events)
    (hsilent : events.filterMap Event.logged? = []) : LogKept start w' := by
  obtain ⟨entries, earlier, hlogged, hkinds⟩ := h
  have hnext := hlogged.trans (.silent hlog (Nat.le_of_eq hdrawn.symm) hhistory hsilent)
  rw [List.append_nil] at hnext
  exact ⟨entries, _, hnext, hkinds⟩

theorem entry (h : LogKept start w) {events : List Event} (kind : LogKind) (text : String)
    (hkind : kind ≠ .result) (hlog : w'.log = w.log ++ [⟨w.drawn, kind, text⟩])
    (hdrawn : w'.drawn = w.drawn + 1) (hhistory : w'.history = w.history ++ events)
    (hlogged : events.filterMap Event.logged? = [(kind, text)]) : LogKept start w' := by
  obtain ⟨entries, earlier, hearlier, hkinds⟩ := h
  refine ⟨_, _, hearlier.trans (.entry hlog hdrawn hhistory hlogged), ?_⟩
  exact List.forall_mem_append.mpr ⟨hkinds, List.forall_mem_singleton.mpr hkind⟩

theorem poll (h : LogKept start w) (around : Surroundings) :
    LogKept start (w.poll around).2 := by
  obtain ⟨halts, hhistory, hhalts⟩ := w.halts_poll around
  obtain ⟨hlog, hdrawn⟩ := w.log_poll around
  exact h.silent hlog hdrawn hhistory (filterMap_logged_of_halts hhalts)

theorem load (h : LogKept start w) (around : Surroundings) (path : String) :
    LogKept start (w.load around path).2 :=
  h.silent rfl rfl (List.append_nil _).symm rfl

/-- An attempt logs what it sends. -/
theorem answered {r : Run} (h : LogKept start r.world) (hlogs : logs settings around = true)
    (request : Fetch.Request) (hgoing : (r.world.poll around).1 = false) :
    LogKept start (answered settings around request r).2 := by
  obtain ⟨halts, hhistory, hhalts⟩ := history_answered settings request hgoing
  have hasked := r.world.log_poll around
  have hsent (w : World) := w.log_fetch around (withCookiesOf request r.session)
  refine h.entry .url (withCookiesOf request r.session).describe nofun ?_ ?_ hhistory ?_
  · rw [Script.answered, (hsent _).1, log_write hlogs, ← hasked.1, ← hasked.2]
    rfl
  · rw [Script.answered, (hsent _).2, World.drawn_write, ← hasked.2]
    rfl
  · rw [List.filterMap_cons, filterMap_logged_of_halts hhalts]
    rfl

end LogKept

theorem kept_fail (step message : String) : KeepsLog start (fail settings step message) :=
  triple_fail (fun _ hr _ => hr) fun _ hr _ => hr

variable (hlogs : logs settings around = true)
include hlogs

theorem kept_attempts (request : Fetch.Request) (address : Url) :
    KeepsLog start (attempts settings around request address) :=
  triple_attempts (M := fun r => LogKept start r.world) (fun _ hr _ => hr.poll around)
    (fun _ _ hr hgoing _ => hr.answered hlogs request hgoing)
    (fun _ _ hr hgoing _ => hr.answered hlogs request hgoing) (kept_fail "fetch")

/-- A command that has begun logs what is its to log, and no other one logs anything. -/
theorem kept_step (c : Command) (last : Value) (s : Session) (h : LogKept start w) :
    Triple (Eq ⟨s, w.record (.command c last)⟩) (step settings around c last)
      (fun _ r => LogKept start r.world) fun _ r => LogKept start r.world := by
  -- The command is on record already; what it has to log is still owed.
  have hsilent (hc : (Event.command c last).logged? = none) :
      LogKept start (w.record (.command c last)) :=
    h.silent rfl rfl rfl (by rw [List.filterMap_cons, hc]; rfl)
  have hput (kind : LogKind) (text : String) (hkind : kind ≠ .result)
      (hc : (Event.command c last).logged? = some (kind, text)) :
      Triple (Eq ⟨s, w.record (.command c last)⟩) (put settings around kind text)
        (fun _ r => LogKept start r.world) fun _ r => LogKept start r.world := by
    rintro _ rfl
    rw [put_apply]
    exact h.entry kind text hkind (log_write hlogs _ _) (World.drawn_write _ _ _ _)
      (World.history_write _ _ _ _) (by rw [List.filterMap_cons, hc]; rfl)
  have hkeeps {x : Execution Value} (hc : (Event.command c last).logged? = none)
      (hx : KeepsLog start x) :
      Triple (Eq ⟨s, w.record (.command c last)⟩) x (fun _ r => LogKept start r.world)
        fun _ r => LogKept start r.world := by
    rintro _ rfl
    exact hx _ (hsilent hc)
  cases c with
  | document name => exact hkeeps rfl (triple_document kept_fail name)
  | load file => exact hkeeps rfl (triple_load kept_fail (fun _ _ hr => hr.load around _) file)
  | useCookies => exact hkeeps rfl fun _ hr => hr
  | fetch command =>
      exact hkeeps rfl
        (triple_fetched kept_fail (fun _ hr => hr) (kept_attempts hlogs) command last)
  | clean mode substitutions =>
      exact hkeeps rfl (triple_cleaned kept_fail mode substitutions last)
  | structured =>
      cases last with
      | node n => exact Triple.bind (hput .structured _ nofun rfl) fun _ => triple_return
      | _ => exact hkeeps rfl triple_return
  | parse rules => exact hkeeps rfl (triple_parsed kept_fail (fun _ _ hr => hr) rules last)
  | save => exact Triple.bind (hput .save _ nofun rfl) fun _ => triple_return

theorem kept_steps (last : Value) (commands : List Command) :
    KeepsLog start (steps settings around last commands) :=
  triple_steps (P := fun _ r => LogKept start r.world) (fun _ _ hr => hr)
    (fun _ _ hr _ => hr.poll around)
    (fun c _ last r hr _ => kept_step hlogs c last r.session (hr.poll around)) last commands

/-- An execution logs its value under the number that it drew when it began, and what its commands
log under later ones. -/
theorem logged_execute (script : Script) (start : Run) :
    ∃ entries events,
      Logged start.world (execute settings around script start).2.world entries events ∧
      events.filterMap Event.outcome? = [(execute settings around script start).1] := by
  suffices h : ∃ entries events,
      Logged start.world (execute settings around script start).2.world entries events by
    obtain ⟨entries, events, hlogged⟩ := h
    obtain ⟨events', hhistory, -, houtcome⟩ := history_execute settings around script start
    obtain rfl : events = events' := List.append_cancel_left (hlogged.history.symm.trans hhistory)
    exact ⟨entries, events, hlogged, houtcome⟩
  have hkept := kept_steps hlogs .null script.commands (begun script start) (.refl _)
  have hbegun : Logged start.world (begun script start).world [] [.began script start.session] :=
    .silent rfl (Nat.le_succ _) rfl rfl
  rw [execute_eq]
  generalize steps settings around .null script.commands (begun script start) = ended at hkept ⊢
  obtain ⟨fault | v, r⟩ := ended
  -- After a fault nothing is logged; the number of the execution is lost.
  · obtain ⟨entries, events, hlogged, -⟩ := hkept
    have hended : Logged r.world (r.world.record (.ended (.error fault))) [] _ :=
      .silent rfl (Nat.le_refl _) rfl rfl
    exact ⟨_, _, (hbegun.trans hlogged).trans hended⟩
  · obtain ⟨entries, events, hlogged, hkinds⟩ := hkept
    have hlater (e : LogEntry) (he : e ∈ entries) : start.world.drawn < e.number :=
      (hlogged.numbers e he).1
    refine ⟨_, _, (hbegun.trans hlogged).result (valueText v) [.ended (.ok v)]
      (fun e he => ⟨hlater e he, hkinds e he⟩) hlogged.drawn ?_ ?_ ?_ rfl⟩
    · exact log_write hlogs _ _
    · exact World.drawn_write _ _ _ _
    · exact World.history_write _ _ _ _

end Running

def Event.textFor? (kind : LogKind) (e : Event) : Option String :=
  e.logged?.bind fun (kind', text) => if kind' = kind then some text else none

theorem Event.textFor?_eq (e : Event) :
    e.textFor? .url = e.request?.map Fetch.Request.describe ∧
      e.textFor? .result = (e.outcome?.bind Except.toOption).map valueText ∧
      e.textFor? .structured = e.structured?.map Markup.NodeRef.toMarkup ∧
      e.textFor? .save = e.saved?.map valueText := by
  cases e with
  | command c last =>
      cases c with
      | structured => cases last <;> exact ⟨rfl, rfl, rfl, rfl⟩
      | _ => exact ⟨rfl, rfl, rfl, rfl⟩
  | ended outcome => cases outcome <;> exact ⟨rfl, rfl, rfl, rfl⟩
  | _ => exact ⟨rfl, rfl, rfl, rfl⟩

theorem textsOf_eq (kind : LogKind) (entries : List LogEntry) :
    textsOf kind entries = (entries.map LogEntry.content).filterMap fun (kind', text) =>
      if kind' = kind then some text else none := by
  induction entries with
  | nil => rfl
  | cons e entries ih =>
      rw [List.map_cons, List.filterMap_cons, ← ih, textsOf, List.filter_cons]
      by_cases hkind : e.kind = kind <;> simp [hkind, LogEntry.content, textsOf]

theorem Logged.texts {start stop : World} {entries : List LogEntry} {events : List Event}
    (h : Logged start stop entries events) (kind : LogKind) :
    textsOf kind entries = events.filterMap (Event.textFor? kind) := by
  rw [textsOf_eq, h.contents, List.filterMap_filterMap]
  rfl

/-- An execution to come: its script under its settings and surroundings, the session that it begins
with and the token that it asks. -/
structure Job where
  settings : Settings
  around : Surroundings
  script : Script
  session : Session
  token : HaltToken

structure Ending where
  outcome : Except Fault Value
  session : Session
  token : HaltToken

/-- Runs the script; what is shared with other executions is the world but for its token. -/
def Job.run (job : Job) (w : World) : Ending × World :=
  let (outcome, r) := execute job.settings job.around job.script
    ⟨job.session, { w with token := job.token }⟩
  (⟨outcome, r.session, r.world.token⟩, r.world)

/-- Executions one after the other, as many as are given. A plan names the next one after those that
have ended. -/
def runs (plan : List Ending → Job) : Nat → World → List Ending × World
  | 0, w => ([], w)
  | n + 1, w =>
    let (endings, w) := runs plan n w
    let (ending, w) := (plan endings).run w
    (endings ++ [ending], w)

def Job.loads (job : Job) (w : World) : List String := (job.run w).2.loads.drop w.loads.length

def Job.withLog (job : Job) (place : LogPlace) : Job :=
  { job with settings := job.settings.withLog place, around := job.around.withLog place }

/-- The files that an execution loads read the same in another place of its log: none of them is
reached through the folders that the log goes to, here and there. -/
structure Job.Apart (job : Job) (place : LogPlace) (folders : String → Bool) (w : World) :
    Prop where
  logs : LogsIn folders job.settings place
  reads : ∀ path ∈ job.loads w, ReadsAlike folders job.around.files place.files path

section Moving

variable {folders : String → Bool}

/-- The place of its log has no part in how an execution ends and in what it leaves, but for the
log. -/
theorem run_withLog {job : Job} {place : LogPlace} {w : World} (h : job.Apart place folders w)
    (log : List LogEntry) {ws : List Writing}
    (hws : elsewhere folders ws = elsewhere folders w.writings) :
    ∃ log' ws', elsewhere folders ws' = elsewhere folders (job.run w).2.writings ∧
      (job.withLog place).run (w.withLog log ws) =
        ((job.run w).1, (job.run w).2.withLog log' ws') := by
  let start : Run := ⟨job.session, { w with token := job.token }⟩
  let kind (path : String) : Prop := ReadsAlike folders job.around.files place.files path
  have halike : Alike folders kind (execute job.settings job.around job.script)
      (execute (job.settings.withLog place) (job.around.withLog place) job.script) :=
    alike_execute h.logs (fun _ hpath => hpath) job.script
  obtain ⟨paths, hloads, hsame⟩ := halike start log ws hws
  have hran : (job.run w).2.loads = w.loads ++ paths := hloads
  have hpaths : job.loads w = paths := by rw [Job.loads, hran, List.drop_left]
  obtain ⟨log', ws', hws', hexecute⟩ := hsame fun path hpath => h.reads path (hpaths ▸ hpath)
  have hrun : (job.withLog place).run (w.withLog log ws) =
      let (outcome, r) := execute (job.settings.withLog place) (job.around.withLog place) job.script
        (start.withLog log ws)
      (⟨outcome, r.session, r.world.token⟩, r.world) := rfl
  rw [hrun, hexecute]
  exact ⟨log', ws', hws', rfl⟩

theorem runs_withLog {plan : List Ending → Job} {place : List Ending → LogPlace} {n : Nat}
    {start : World} (h : ∀ k < n, (plan (runs plan k start).1).Apart (place (runs plan k start).1)
      folders (runs plan k start).2) :
    ∃ log ws, elsewhere folders ws = elsewhere folders (runs plan n start).2.writings ∧
      runs (fun endings => (plan endings).withLog (place endings)) n start =
        ((runs plan n start).1, (runs plan n start).2.withLog log ws) := by
  induction n with
  | zero => exact ⟨start.log, start.writings, rfl, rfl⟩
  | succ n ih =>
      obtain ⟨log, ws, hws, hruns⟩ := ih fun k hk => h k (Nat.lt_succ_of_lt hk)
      have hlast := h n (Nat.lt_succ_self n)
      rw [runs, runs, hruns]
      generalize runs plan n start = before at hws hlast ⊢
      obtain ⟨endings, w⟩ := before
      obtain ⟨log', ws', hws', hrun⟩ := run_withLog hlast log hws
      dsimp only at hrun ⊢
      rw [hrun]
      exact ⟨log', ws', hws', rfl⟩

end Moving

/-- The executions of a plan log what they do, one after the other. -/
theorem logged_runs {plan : List Ending → Job}
    (hlogs : ∀ endings, logs (plan endings).settings (plan endings).around = true) (n : Nat)
    (start : World) :
    ∃ entries events, Logged start (runs plan n start).2 entries events ∧
      events.filterMap Event.outcome? = (runs plan n start).1.map Ending.outcome := by
  induction n with
  | zero => exact ⟨[], [], .silent rfl (Nat.le_refl _) (List.append_nil _).symm rfl, rfl⟩
  | succ n ih =>
      rw [runs]
      generalize runs plan n start = before at ih ⊢
      obtain ⟨endings, w⟩ := before
      obtain ⟨entries, events, hlogged, houtcomes⟩ := ih
      obtain ⟨later, next, hnext, houtcome⟩ := logged_execute (hlogs endings) (plan endings).script
        ⟨(plan endings).session, { w with token := (plan endings).token }⟩
      have hshared : Logged w ((plan endings).run w).2 later next := { hnext with }
      refine ⟨_, _, hlogged.trans hshared, ?_⟩
      rw [List.filterMap_append, houtcomes, houtcome, List.map_append]
      rfl

/-- The log of executions that ended like this, between two worlds: the entries that were added to
it and the events that were put on record. -/
structure LogComplete (start stop : World) (endings : List Ending) (entries : List LogEntry)
    (events : List Event) : Prop where
  log : stop.log = start.log ++ entries
  history : stop.history = start.history ++ events
  outcomes : events.filterMap Event.outcome? = endings.map Ending.outcome
  /-- Every request that was sent has an entry. -/
  urls : textsOf .url entries = (events.filterMap Event.request?).map Fetch.Request.describe
  /-- Every execution that ended with a value has an entry, and no other one. -/
  results : textsOf .result entries =
    (endings.filterMap (·.outcome.toOption)).map valueText
  structured : textsOf .structured entries =
    (events.filterMap Event.structured?).map Markup.NodeRef.toMarkup
  saves : textsOf .save entries = (events.filterMap Event.saved?).map valueText
  /-- The entries of a kind are in the order of their numbers. -/
  ordered : ∀ kind, ((entries.filter (·.kind = kind)).map LogEntry.number).Pairwise (· < ·)
  /-- No number comes twice, whatever the kinds of the entries. -/
  distinct : (entries.map LogEntry.number).Nodup
  numbers : ∀ e ∈ entries, start.drawn ≤ e.number ∧ e.number < stop.drawn

theorem Logged.complete {start stop : World} {endings : List Ending} {entries : List LogEntry}
    {events : List Event} (h : Logged start stop entries events)
    (houtcomes : events.filterMap Event.outcome? = endings.map Ending.outcome) :
    LogComplete start stop endings entries events where
  log := h.log
  history := h.history
  outcomes := houtcomes
  urls := by
    rw [h.texts, List.map_filterMap]
    exact congrArg (events.filterMap ·) (funext fun e => (Event.textFor?_eq e).1)
  results := by
    rw [h.texts, funext fun e => (Event.textFor?_eq e).2.1, ← List.map_filterMap,
      ← List.filterMap_filterMap, houtcomes, List.filterMap_map]
    rfl
  structured := by
    rw [h.texts, List.map_filterMap]
    exact congrArg (events.filterMap ·) (funext fun e => (Event.textFor?_eq e).2.2.1)
  saves := by
    rw [h.texts, List.map_filterMap]
    exact congrArg (events.filterMap ·) (funext fun e => (Event.textFor?_eq e).2.2.2)
  ordered kind := by
    refine List.pairwise_map.mpr ((h.ordered.filter _).imp_of_mem fun {a b} ha hb hbefore => ?_)
    have hkinds : a.kind = kind ∧ b.kind = kind :=
      ⟨by simpa using (List.mem_filter.mp ha).2, by simpa using (List.mem_filter.mp hb).2⟩
    exact hbefore.2 (hkinds.1.trans hkinds.2.symm)
  distinct := List.pairwise_map.mpr (h.ordered.imp fun hbefore => hbefore.1)
  numbers := h.numbers

/-- A log that can be written is complete and never overwrites, whatever executions share it and its
numbers, and whatever it does to the files that they load. And how they end and what they leave does
not depend on the place of their logs, where what they load reads the same. -/
theorem log_complete (plan : List Ending → Job) (n : Nat) (start : World)
    (hlogs : ∀ endings, logs (plan endings).settings (plan endings).around = true) :
    (∃ entries events,
      LogComplete start (runs plan n start).2 (runs plan n start).1 entries events) ∧
    ∀ (place : List Ending → LogPlace) (folders : String → Bool),
      (∀ k < n, (plan (runs plan k start).1).Apart (place (runs plan k start).1) folders
        (runs plan k start).2) →
      let moved := fun endings => (plan endings).withLog (place endings)
      (runs moved n start).1 = (runs plan n start).1 ∧
        ∃ log writings,
          (runs moved n start).2 =
            { (runs plan n start).2 with log := log, writings := writings } := by
  refine ⟨?_, fun place folders hapart => ?_⟩
  · obtain ⟨entries, events, hlogged, houtcomes⟩ := logged_runs hlogs n start
    exact ⟨entries, events, hlogged.complete houtcomes⟩
  · obtain ⟨log, ws, -, hruns⟩ := runs_withLog hapart
    dsimp only
    rw [hruns]
    exact ⟨rfl, log, ws, rfl⟩

/-- A folder with a page in it, where the log makes a folder of its own. -/
def archive (writings : List Writing) : FileStore :=
  .ofList "/archive" (("page", [112]) :: writings.map fun x => ("logs/" ++ x.entry.kind.name, []))

theorem bytesAt_archive (ws : List Writing) :
    (archive ws).bytesAt "/archive/page" = .ok [112] := by
  unfold FileStore.bytesAt
  dsimp only
  rw [if_neg (by decide), if_neg (by decide), if_neg (by decide), if_pos (by cbv)]
  cbv

theorem read_archive (ws ws' : List Writing) :
    (archive ws').read "/archive/page" = (archive ws).read "/archive/page" := by
  rw [FileStore.read, FileStore.read, bytesAt_archive, bytesAt_archive]

/-- The same page is not there by a path through the folder of the log until that is made. -/
example : (archive []).read "/archive/logs/../page" = .error .missing ∧
    (archive [⟨"/archive/logs", 0, .url, ""⟩]).read "/archive/logs/../page" = .ok "p" := by
  decide +kernel

/-- A page is fetched and saved, and another one is loaded; the next execution goes on with the
session. -/
def fetchAndSave (endings : List Ending) : Job where
  settings := { Settings.default with
    logFolder := some "/archive/logs", fileFolder := some "/archive" }
  around :=
    ⟨fun _ _ => .ok ⟨200, "urn:graphs", "graphs", []⟩, fun _ => none, archive, true⟩
  script :=
    ⟨[.fetch ⟨1, none, .get, some "urn:graphs", none, [], []⟩, .save, .load "page"]⟩
  session := (endings.getLast?.map Ending.session).getD .initial
  token := .running

theorem apart_fetchAndSave {k : Nat} (hk : k < 2) :
    (fetchAndSave (runs fetchAndSave k (.initial [])).1).Apart ⟨none, false, archive⟩
      (· == "/archive/logs") (runs fetchAndSave k (.initial [])).2 where
  logs := ⟨by rintro _ ⟨⟩; rfl, nofun⟩
  reads path hpath := by
    have hpaths : ∀ path ∈ (fetchAndSave (runs fetchAndSave k (.initial [])).1).loads
        (runs fetchAndSave k (.initial [])).2, path = "/archive/page" := by
      interval_cases k <;> decide +kernel
    rw [hpaths path hpath]
    exact fun ws ws' _ => read_archive ws ws'

/-- The numbers of the executions are drawn first and used last. The page is loaded past the folder
of the log, so without a log the executions end in the same way. -/
theorem log_complete_fetchAndSave :
    (∀ endings, logs (fetchAndSave endings).settings (fetchAndSave endings).around = true) ∧
    (runs fetchAndSave 2 (.initial [])).2.log =
      [⟨1, .url, "GET urn:graphs\n"⟩, ⟨2, .save, "\"graphs\""⟩,
        ⟨0, .result, "\"p\""⟩, ⟨4, .url, "GET urn:graphs\n"⟩,
        ⟨5, .save, "\"graphs\""⟩, ⟨3, .result, "\"p\""⟩] ∧
    (∃ entries events, LogComplete (.initial []) (runs fetchAndSave 2 (.initial [])).2
      (runs fetchAndSave 2 (.initial [])).1 entries events) ∧
    (runs (fun endings => (fetchAndSave endings).withLog ⟨none, false, archive⟩) 2
      (.initial [])).1 = (runs fetchAndSave 2 (.initial [])).1 := by
  obtain ⟨hcomplete, hmoved⟩ := log_complete fetchAndSave 2 (.initial []) fun _ => rfl
  have hsame := hmoved (fun _ => ⟨none, false, archive⟩) (· == "/archive/logs")
    fun k hk => apart_fetchAndSave hk
  exact ⟨fun _ => rfl, by decide +kernel, hcomplete, hsame.1⟩

end Harvest.Script
