import Harvest.Proofs.Crawl.Invariant

/-!
Faults over runs of calls.

A crawler counts the executions that fault in a row, and one too many halts it. The count agrees
with the history after every call, it exceeds the limit by one at most, and it exceeds the limit
only in a halted crawler. Every halt has a cause that stands in the history right before it: someone
outside, a call, too many faults, or a script that is missing. A recoverable fault within the limit
is none of these.
-/

namespace Harvest.Crawl

open Harvest.Catalog Harvest.Rule Harvest.Script

/-- How many executions have faulted since the last one that has not. -/
def faultsInARow (history : List Event) : Nat :=
  ((history.filterMap Event.outcome?).reverse.takeWhile (!·.isOk)).length

section FaultsInARow

variable {history : List Event}

theorem faultsInARow_append {events : List Event} (h : events.filterMap Event.outcome? = []) :
    faultsInARow (history ++ events) = faultsInARow history := by
  simp [faultsInARow, List.filterMap_append, h]

theorem faultsInARow_append_ok (v : Value) :
    faultsInARow (history ++ [.ended (.ok v)]) = 0 := by
  simp [faultsInARow, List.filterMap_append, Event.outcome?, Except.isOk, Except.toBool]

theorem faultsInARow_append_error (fault : Fault) :
    faultsInARow (history ++ [.ended (.error fault)]) = faultsInARow history + 1 := by
  simp [faultsInARow, List.filterMap_append, Event.outcome?, Except.isOk, Except.toBool]

end FaultsInARow

section Policy

variable (source : Source) (around : Surroundings) (asked : String → Prop) (earlier : List Event)

inductive Cause (before : List Event) : String → Prop
  | outside {moment : Moment} {reason : String} (h : around.halt? moment = some reason) :
    Cause before reason
  | call {reason : String} (h : asked reason) : Cause before reason
  | tooManyFaults {start : List Event} {fault : Fault}
    (hlast : before = start ++ [.ended (.error fault)])
    (hmany : source.settings.maxFailures < faultsInARow before) : Cause before fault.reason
  | noExport (hkind : source.settings.kind = .twoStep) (hnone : source.exporting = none) :
    Cause before (missingExport source).reason

/-- The host waits for a halt, or has been told of it once, and the halt has a cause. What happened
earlier may count as no halt. -/
structure Accounted (w : World) : Prop where
  since : earlier <+: w.history
  waiting : w.token.reason = none → w.token = ⟨none, [host], []⟩
  told : ∀ reason, w.token.reason = some reason → w.token = ⟨some reason, [], [(host, reason)]⟩
  caused : ∀ reason, w.token.reason = some reason → ∃ before later,
    w.history = before ++ .halted reason :: later ∧ earlier <+: before ∧
      Cause source around asked before reason

/-- The faults are counted as the history has them, up to one too many. -/
structure Counted (c : Crawler) : Prop where
  counted : c.failures = faultsInARow c.world.history
  bounded : c.failures ≤ source.settings.maxFailures + 1
  accounted : Accounted source around asked earlier c.world

/-- What a crawler keeps while none of its faults is pending. -/
structure Sound (c : Crawler) : Prop extends Counted source around asked earlier c where
  stopped : source.settings.maxFailures < c.failures → c.isHalted = true

structure Pending (fault : Fault) (c : Crawler) : Prop
    extends Counted source around asked earlier c where
  stopped : source.settings.maxFailures < c.failures → c.isHalted = true ∨ fault.isFatal = true
  caused : fault.isFatal = true → Cause source around asked c.world.history fault.reason
  fatal : fault.isFatal = true → source.settings.maxFailures < c.failures ∨
    source.settings.kind = .twoStep ∧ source.exporting = none

variable {source around asked earlier} {w : World}

namespace Accounted

theorem initial : Accounted source around asked [] (.initial [host]) where
  since := List.nil_prefix
  waiting _ := rfl
  told _ := by rintro ⟨⟩
  caused _ := by rintro ⟨⟩

theorem record (h : Accounted source around asked earlier w) (e : Event) :
    Accounted source around asked earlier (w.record e) where
  since := h.since.trans (List.prefix_append _ _)
  waiting := h.waiting
  told := h.told
  caused reason hreason := by
    obtain ⟨before, later, hhistory, hcause⟩ := h.caused reason hreason
    refine ⟨before, later ++ [e], ?_, hcause⟩
    rw [World.record, hhistory, List.append_assoc, List.cons_append]

theorem same (h : Accounted source around asked earlier w) {w' : World} (htoken : w'.token = w.token)
    (hhistory : w'.history = w.history) : Accounted source around asked earlier w' where
  since := hhistory ▸ h.since
  waiting := htoken ▸ h.waiting
  told := htoken ▸ h.told
  caused := htoken ▸ hhistory ▸ h.caused

/-- A first halt is told to the host; after it, nothing changes any more. -/
theorem halt (h : Accounted source around asked earlier w) {reason : String}
    (hcause : Cause source around asked w.history reason) :
    Accounted source around asked earlier (w.halt reason) := by
  unfold World.halt
  split
  · exact h
  · next hrunning =>
    have hnone := reason_eq_none (Bool.eq_false_iff.mpr hrunning)
    have htoken : w.token.halt reason = ⟨some reason, [], [(host, reason)]⟩ := by
      rw [h.waiting hnone]
      rfl
    refine ⟨h.since.trans (List.prefix_append _ _), ?_, ?_, ?_⟩
    · rw [htoken]
      rintro ⟨⟩
    · rw [htoken]
      rintro _ ⟨⟩
      rfl
    · rw [htoken]
      rintro _ ⟨⟩
      exact ⟨w.history, [], rfl, h.since, hcause⟩

end Accounted

theorem faultsInARow_halt (w : World) (reason : String) :
    faultsInARow (w.halt reason).history = faultsInARow w.history := by
  obtain ⟨halts, hhistory, hhalts⟩ := w.history_halt reason
  rw [hhistory, faultsInARow_append (quiet_of_halts hhalts).2]

/-- While an execution is under way, the faults in a row stay as many as they are. -/
theorem steady_accounted (faults : Nat) :
    World.Steady around fun w =>
      faultsInARow w.history = faults ∧ Accounted source around asked earlier w :=
  .of_record (fun _ _ htoken hhistory hw => ⟨hhistory ▸ hw.1, hw.2.same htoken hhistory⟩)
    (fun _ _ _ _ hw => ⟨(faultsInARow_append rfl).trans hw.1, hw.2.record _⟩)
    (fun _ _ _ _ hw => ⟨(faultsInARow_append rfl).trans hw.1, hw.2.record _⟩)
    fun w _ reason hmoment hw =>
      ⟨(faultsInARow_halt w reason).trans hw.1, hw.2.halt (.outside hmoment)⟩

namespace Counted

variable {c : Crawler}

/-- A halt is no execution, and it is accounted for if it has a cause. -/
theorem halt (h : Counted source around asked earlier c) {reason : String}
    (hcause : Cause source around asked c.world.history reason) :
    Counted source around asked earlier (c.halt reason) where
  counted := h.counted.trans (faultsInARow_halt c.world reason).symm
  bounded := h.bounded
  accounted := h.accounted.halt hcause

theorem same (h : Counted source around asked earlier c) {c' : Crawler}
    (hfailures : c'.failures = c.failures) (htoken : c'.world.token = c.world.token)
    (hhistory : c'.world.history = c.world.history) : Counted source around asked earlier c' where
  counted := hhistory ▸ hfailures ▸ h.counted
  bounded := hfailures ▸ h.bounded
  accounted := h.accounted.same htoken hhistory

end Counted

namespace Sound

variable {c : Crawler}

theorem initial : Sound source around asked [] .initial where
  counted := rfl
  bounded := Nat.zero_le _
  accounted := .initial
  stopped := by rintro ⟨⟩

/-- As long as a script may be run, the count is within the limit. -/
theorem failures_le (h : Sound source around asked earlier c)
    (hgoing : c.isHalted = false ∨ c.failures = 0) :
    c.failures ≤ source.settings.maxFailures := by
  obtain hrunning | hzero := hgoing
  · refine Nat.le_of_not_lt fun hmany => ?_
    have hhalted := h.stopped hmany
    rw [hrunning] at hhalted
    cases hhalted
  · exact hzero ▸ Nat.zero_le _

theorem halt (h : Sound source around asked earlier c) {reason : String}
    (hcause : Cause source around asked c.world.history reason) :
    Sound source around asked earlier (c.halt reason) where
  toCounted := h.toCounted.halt hcause
  stopped _ := isHalted_halt c.world reason

theorem same (h : Sound source around asked earlier c) {c' : Crawler}
    (hfailures : c'.failures = c.failures) (htoken : c'.world.token = c.world.token)
    (hhistory : c'.world.history = c.world.history) : Sound source around asked earlier c' where
  toCounted := h.toCounted.same hfailures htoken hhistory
  stopped hmany := by
    rw [Crawler.isHalted, World.isHalted, htoken]
    exact h.stopped (hfailures ▸ hmany)

theorem poll (h : Sound source around asked earlier c) :
    Sound source around asked earlier (c.poll around).2 := by
  unfold Crawler.poll World.poll
  cases hmoment : around.halt? (.poll c.world.polls) with
  | none => exact h.same rfl rfl rfl
  | some reason => exact (h.halt (.outside hmoment)).same rfl rfl rfl

end Sound

theorem Pending.settle {fault : Fault} {c : Crawler}
    (h : Pending source around asked earlier fault c) :
    Sound source around asked earlier (c.settle fault) := by
  unfold Crawler.settle
  split
  · next hfatal =>
    exact
      { toCounted := h.toCounted.halt (h.caused hfatal)
        stopped := fun _ => isHalted_halt c.world fault.reason }
  · next hfatal =>
    exact
      { toCounted := h.toCounted
        stopped := fun hmany => (h.stopped hmany).resolve_right hfatal }

/-- What a run of a script makes of a crawler that keeps the policy. -/
theorem runScript_sound (script : Script) (session : Session) {c : Crawler}
    (h : Sound source around asked earlier c) (hgoing : c.isHalted = false ∨ c.failures = 0) :
    match runScript source around script ⟨session, c⟩ with
    | (.ok _, p) => Sound source around asked earlier p.crawler
    | (.error fault, p) => Pending source around asked earlier fault p.crawler := by
  have hfailures := h.failures_le hgoing
  obtain ⟨w, ⟨hfaults, haccounted⟩, htoken, hhistory, hrecoverable⟩ :=
    execute_keeps source.engine (steady_accounted (faultsInARow c.world.history)) script
      ⟨session, c.world⟩ ⟨faultsInARow_append rfl, h.accounted.record _⟩
  rcases hexecute : execute source.engine around script ⟨session, c.world⟩ with ⟨fault | v, r⟩ <;>
    rw [hexecute] at htoken hhistory hrecoverable
  · have hcount : faultsInARow r.world.history = c.failures + 1 := by
      rw [hhistory, faultsInARow_append_error, hfaults, h.counted]
    have hcounted : Counted source around asked earlier
        { c with failures := c.failures + 1, world := r.world } :=
      { counted := hcount.symm
        bounded := Nat.succ_le_succ hfailures
        accounted := (haccounted.record (.ended (.error fault))).same htoken hhistory }
    rw [runScript_of_error hexecute]
    dsimp only
    split
    · next hmany =>
      -- The end of the execution is the last event, so the halt will stand right behind it.
      have hcause : Cause source around asked r.world.history fault.reason :=
        .tooManyFaults hhistory (hcount ▸ hmany)
      exact
        { toCounted := hcounted
          stopped := fun _ => .inr rfl
          caused := fun _ => hcause
          fatal := fun _ => .inl hmany }
    · next hmany =>
      have hfatal : fault.isFatal ≠ true := by simp [hrecoverable fault rfl]
      exact
        { toCounted := hcounted
          stopped := fun hmore => absurd hmore hmany
          caused := fun h => absurd h hfatal
          fatal := fun h => absurd h hfatal }
  · rw [runScript_of_ok hexecute]
    exact
      { counted := by rw [hhistory, faultsInARow_append_ok]
        bounded := Nat.zero_le _
        accounted := (haccounted.record (.ended (.ok v))).same htoken hhistory
        stopped := fun hmany => absurd hmany (Nat.not_lt_zero _) }

/-- What the policy is made of lasts through every part of a crawl. -/
theorem lasting_sound :
    Lasting source around (Sound source around asked earlier)
      (Pending source around asked earlier) where
  poll _ h := h.poll
  run script session _ h hgoing := runScript_sound script session h hgoing
  cookies _ _ h := h.same rfl rfl rfl
  cookiesAfter _ _ _ h :=
    { toCounted := h.toCounted.same rfl rfl rfl
      stopped := h.stopped
      caused := h.caused
      fatal := h.fatal }
  missing hkind hnone _ h :=
    { toCounted := h.toCounted
      stopped := fun hmany => .inl (h.stopped hmany)
      caused := fun _ => .noExport hkind hnone
      fatal := fun _ => .inr ⟨hkind, hnone⟩ }

end Policy

section Calls

variable {source : Source} {around : Surroundings}

/-- Once the work is halted, the reason stays. -/
theorem steady_reason (reason : String) :
    World.Steady around fun w => w.token.reason = some reason :=
  .of_record (fun _ _ htoken _ hw => htoken ▸ hw) (fun _ _ _ _ hw => hw) (fun _ _ _ _ hw => hw)
    fun _ _ reason' _ hw => reason_halt hw reason'

/-- After calls the policy is kept, with the halts that were called for. -/
theorem sound_after (calls : List Call) :
    Sound source around (fun reason => .halt reason ∈ calls) [] (.after source around calls) :=
  after_keeps lasting_sound (fun _ _ h => h.settle) (fun _ _ h => h.same rfl rfl rfl) calls
    (fun _ _ hmem h => h.halt (.call hmem)) .initial

/-- What halts a crawler that was not halted has its cause in the call at hand. -/
theorem Sound.perform {asked : String → Prop} {earlier : List Event} {c : Crawler}
    (h : Sound source around asked earlier c) (hrunning : c.isHalted = false) (call : Call) :
    Sound source around (call = .halt ·) c.world.history (c.perform source around call) := by
  have hnone := reason_eq_none hrunning
  -- No halt is accounted for yet, so those to come may be held to the causes in this call.
  have hstart : Sound source around (call = .halt ·) c.world.history c :=
    { counted := h.counted
      bounded := h.bounded
      stopped := h.stopped
      accounted :=
        { since := List.prefix_rfl
          waiting := h.accounted.waiting
          told := h.accounted.told
          caused := by simp [hnone] } }
  exact perform_keeps lasting_sound (fun _ _ h => h.settle) (fun _ _ h => h.same rfl rfl rfl) call c
    (fun _ hcall => hstart.halt (.call hcall)) hstart

theorem reason_settle {c : Crawler} {reason : String} (h : c.world.token.reason = some reason)
    (fault : Fault) : (c.settle fault).world.token.reason = some reason := by
  unfold Crawler.settle
  split
  · exact reason_halt h fault.reason
  · exact h

theorem perform_reason {c : Crawler} {reason : String} (h : c.world.token.reason = some reason)
    (call : Call) : (c.perform source around call).world.token.reason = some reason :=
  perform_keeps (lasting_of_steady (steady_reason reason) (fun _ _ _ hw => hw) fun _ _ hw => hw)
    (fun _ _ h => reason_settle h _) (fun _ _ h => h) call c (fun reason' _ => reason_halt h reason') h

variable (source around)

structure FaultPolicy (c : Crawler) : Prop where
  /-- The failures are the executions that faulted since the last one that did not. -/
  counted : c.failures = faultsInARow c.world.history
  /-- One too many is the most, so the count fits where the limit and one more does. -/
  bounded : c.failures ≤ source.settings.maxFailures + 1
  stopped : source.settings.maxFailures < c.failures → c.isHalted = true
  /-- The host has been told of the halt, once, or of nothing. -/
  told : c.told = c.world.token.reason.toList
  /-- A halt and its reason last. -/
  remains : ∀ call reason, c.world.token.reason = some reason →
    (c.perform source around call).world.token.reason = some reason
  /-- A call that halts the crawler has a cause for it in what happens right before the halt. -/
  caused : ∀ call reason, c.isHalted = false →
    (c.perform source around call).world.token.reason = some reason →
    ∃ before later, (c.perform source around call).world.history =
        before ++ .halted reason :: later ∧
      c.world.history <+: before ∧ Cause source around (call = .halt ·) before reason
  /-- The fault of an execution is fatal where it is one too many, and only there. -/
  escalated : ∀ script session fault p,
    runScript source around script ⟨session, c⟩ = (.error fault, p) →
    (fault.isFatal = true ↔ source.settings.maxFailures < p.crawler.failures)
  /-- An execution for details that faults within the limit halts nothing, and the work goes on. -/
  goes_on : ∀ script completed r token address fault p,
    runScript source around script ⟨detailSession source c token address, c⟩ = (.error fault, p) →
    p.crawler.failures ≤ source.settings.maxFailures →
    fetchDetail source around script completed r token address c =
      (⟨r, completed, true⟩, p.crawler)
  /-- A query that ends in a fault within the limit halts nothing. -/
  tolerated : ∀ q fault c', process source around q c = (.error fault, c') →
    c'.failures ≤ source.settings.maxFailures →
    (source.settings.kind = .paged ∨ source.exporting ≠ none) →
    retrieve source around q c = (none, c')

variable {source around}

theorem runScript_isFatal_iff {script : Script} {c p : Progress} {fault : Fault}
    (h : runScript source around script c = (.error fault, p)) :
    fault.isFatal = true ↔ source.settings.maxFailures < p.crawler.failures := by
  rcases hexecute : execute source.engine around script ⟨c.session, c.crawler.world⟩ with ⟨e | v, r⟩
  · rw [runScript_of_error hexecute] at h
    have hrecoverable := isFatal_of_execute hexecute
    cases h
    dsimp only
    split
    · next hmany => exact iff_of_true rfl hmany
    · next hwithin => exact iff_of_false (by simp [hrecoverable]) hwithin
  · rw [runScript_of_ok hexecute] at h
    cases h

/-- The token of an accounted world tells the host its reason, and nothing else. -/
theorem told_eq {asked : String → Prop} {earlier : List Event} {c : Crawler}
    (h : Accounted source around asked earlier c.world) : c.told = c.world.token.reason.toList := by
  unfold Crawler.told
  cases hreason : c.world.token.reason with
  | none =>
      rw [h.waiting hreason]
      rfl
  | some reason =>
      rw [h.told reason hreason]
      rfl

theorem Sound.faultPolicy {asked : String → Prop} {earlier : List Event} {c : Crawler}
    (h : Sound source around asked earlier c) : FaultPolicy source around c where
  counted := h.counted
  bounded := h.bounded
  stopped := h.stopped
  told := told_eq h.accounted
  remains call _ hreason := perform_reason hreason call
  caused call reason hrunning hreason :=
    (h.perform hrunning call).accounted.caused reason hreason
  escalated _ _ _ _ hrun := runScript_isFatal_iff hrun
  goes_on _ _ _ _ _ fault _ hrun hwithin := by
    have hfatal : fault.isFatal ≠ true :=
      fun hfatal => absurd ((runScript_isFatal_iff hrun).mp hfatal) (Nat.not_lt.mpr hwithin)
    rw [fetchDetail, hrun]
    exact if_neg hfatal
  tolerated q fault c' hprocess hwithin hexport := by
    have hpending := (keepsAnswer_process lasting_sound q).of_error h hprocess
    have hfatal : fault.isFatal ≠ true := by
      intro hfatal
      obtain hmany | ⟨hkind, hnone⟩ := hpending.fatal hfatal
      · exact absurd hmany (Nat.not_lt.mpr hwithin)
      · obtain hpaged | hsome := hexport
        · rw [hkind] at hpaged
          cases hpaged
        · exact hsome hnone
    rw [retrieve_eq, hprocess]
    dsimp only
    rw [Crawler.settle, if_neg hfatal]

/-- After any calls, whoever halts the work meanwhile and whatever the replies are, the crawler
keeps its policy. -/
theorem after_faultPolicy (source : Source) (around : Surroundings) (calls : List Call) :
    FaultPolicy source around (.after source around calls) :=
  (sound_after calls).faultPolicy

end Calls

end Harvest.Crawl
