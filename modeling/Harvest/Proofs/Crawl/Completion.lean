import Harvest.Proofs.Crawl.Paging

/-!
How the results of a list are completed.

The results have their turns one after the other. In its turn a result is passed over, for one of
several reasons, or an execution of its own inquires about it; only the first record of a successful
inquiry changes anything. A halt, and the fault that leads to one, leave all later results alone.
-/

namespace Harvest.Crawl

open Harvest.Catalog Harvest.Rule Harvest.Script

structure Inquiry where
  start : Run
  outcome : Except Fault Value
  stop : Run

/-- The turn of a result: the crawler and the result when it comes, the inquiry if there is one, and
the result and the crawler afterwards. -/
structure Handling where
  crawler : Crawler
  before : Result
  inquiry : Option Inquiry
  after : Result
  left : Crawler

def countedFault (source : Source) (c : Crawler) (fault : Fault) : Fault :=
  if source.settings.maxFailures < c.failures + 1 then fault.escalate else fault

def Inquiry.leave (q : Inquiry) (c : Crawler) (failures : Nat) : Crawler :=
  { c with failures := failures, world := q.stop.world }

section Turns

variable (source : Source) (around : Surroundings) (script : Script)

/-- The crawler is not halted and inquires about a result, which lacks its details and has an
address for them. -/
structure Inquires (c : Crawler) (r : Result) (q : Inquiry) : Prop where
  lacking : r.fetched = false
  poll : (c.poll around).1 = false
  start : ∃ token address, r.token = some token ∧
    detailAddress? source.settings token = some address ∧
    q.start = ⟨detailSession source (c.poll around).2 token address, (c.poll around).2.world⟩
  execute : execute source.engine around script q.start = (q.outcome, q.stop)

inductive Handled : Handling → Prop
  | passed {c : Crawler} {r : Result} (hhalted : c.isHalted = true) : Handled ⟨c, r, none, r, c⟩
  | dated {c : Crawler} {r : Result} (hfetched : r.fetched = true) : Handled ⟨c, r, none, r, c⟩
  | halted {c : Crawler} {r : Result} (hpoll : (c.poll around).1 = true) :
    Handled ⟨c, r, none, r, (c.poll around).2⟩
  | unresolved {c : Crawler} {r : Result}
    (hlead : r.token.bind (detailAddress? source.settings) = none) :
    Handled ⟨c, r, none, r, (c.poll around).2⟩
  | faulted {c : Crawler} {r : Result} {q : Inquiry} {fault : Fault}
    (hasks : Inquires source around script c r q) (hfault : q.outcome = .error fault) :
    Handled ⟨c, r, some q, r,
      (q.leave (c.poll around).2 (c.failures + 1)).settle (countedFault source c fault)⟩
  | barren {c : Crawler} {r : Result} {q : Inquiry} {v : Value}
    (hasks : Inquires source around script c r q) (hvalue : q.outcome = .ok v)
    (hnone : recordsOf v = []) : Handled ⟨c, r, some q, r, q.leave (c.poll around).2 0⟩
  | completed {c : Crawler} {r : Result} {q : Inquiry} {v : Value} {record : Record}
    {rest : List Record} (hasks : Inquires source around script c r q) (hvalue : q.outcome = .ok v)
    (hrecord : recordsOf v = record :: rest) :
    Handled ⟨c, r, some q, complete source r record, q.leave (c.poll around).2 0⟩

inductive Course : Crawler → List Handling → Crawler → Prop
  | nil {c : Crawler} : Course c [] c
  | cons {x : Handling} {xs : List Handling} {c : Crawler} (hturn : Handled source around script x)
    (hrest : Course x.left xs c) : Course x.crawler (x :: xs) c

end Turns

namespace Handling

/-- The result had a token and lacked its details; now it has what the first record of its own
inquiry says of them, and is otherwise the same. -/
structure Completed (source : Source) (x : Handling) : Prop where
  token : x.before.token.isSome = true
  lacking : x.before.fetched = false
  fetched : x.after.fetched = true
  same_source : x.after.source = x.before.source
  same_token : x.after.token = x.before.token
  entry : ∃ q ∈ x.inquiry, ∃ v record rest, q.outcome = .ok v ∧ recordsOf v = record :: rest ∧
    x.after.entry = x.before.entry.merge (source.mapper record)

def Untouched (x : Handling) : Prop := x.inquiry = none ∧ x.after = x.before

theorem Completed.changed {source : Source} {x : Handling} (h : x.Completed source) :
    x.after ≠ x.before := by
  intro heq
  have hfetched := h.fetched
  rw [heq, h.lacking] at hfetched
  cases hfetched

/-- How many results of a list have been completed after a turn, where so many had been before. -/
def countOn (x : Handling) (completed : Nat) : Nat :=
  if x.after = x.before then completed else completed + 1

theorem countOn_add_countP (x : Handling) (completed : Nat) (turns : List Handling) :
    x.countOn completed + turns.countP (fun x => decide (x.after ≠ x.before)) =
      completed + (x :: turns).countP fun x => decide (x.after ≠ x.before) := by
  by_cases hsame : x.after = x.before
  · simp [countOn, hsame]
  · simp [countOn, hsame]
    omega

end Handling

structure AllOrNothing (source : Source) (around : Surroundings) (script : Script) (x : Handling) :
    Prop where
  changed_iff : x.after ≠ x.before ↔ x.Completed source
  inquires : ∀ q ∈ x.inquiry, Inquires source around script x.crawler x.before q
  dated : x.before.fetched = true → x.Untouched
  halted : (x.crawler.poll around).1 = true → x.Untouched
  unresolved : x.before.token.bind (detailAddress? source.settings) = none → x.Untouched
  faulted : ∀ q ∈ x.inquiry, ∀ fault, q.outcome = .error fault → x.after = x.before
  barren : ∀ q ∈ x.inquiry, ∀ v, q.outcome = .ok v → recordsOf v = [] → x.after = x.before
  /-- Nothing else keeps a result from being completed. -/
  otherwise : x.before.fetched = false → (x.crawler.poll around).1 = false →
    (x.before.token.bind (detailAddress? source.settings)).isSome = true →
    ∃ q ∈ x.inquiry, ∀ v, q.outcome = .ok v → recordsOf v ≠ [] → x.Completed source
  executions : ∃ events, x.left.world.history = x.crawler.world.history ++ events ∧
    events.filterMap Event.start? = (x.inquiry.map fun q => (script, q.start.session)).toList ∧
    events.filterMap Event.outcome? = (x.inquiry.map Inquiry.outcome).toList

section Turns

variable {source : Source} {around : Surroundings} {script : Script}

theorem complete_ne {r : Result} (hlacking : r.fetched = false) (record : Record) :
    complete source r record ≠ r := by
  intro heq
  have hfetched := congrArg Result.fetched heq
  rw [hlacking] at hfetched
  cases hfetched

theorem poll_of_isHalted {c : Crawler} (h : c.isHalted = true) : (c.poll around).1 = true := by
  have hworld : c.world.isHalted = true := h
  simp only [Crawler.poll, World.poll]
  cases around.halt? (.poll c.world.polls) with
  | none => exact hworld
  | some reason => exact isHalted_halt c.world reason

/-- A crawler that is halted stays so when its token is asked. -/
theorem isHalted_poll {c : Crawler} (h : c.isHalted = true) :
    (c.poll around).2.isHalted = true :=
  (rfl : (c.poll around).2.isHalted = (c.poll around).1).trans (poll_of_isHalted h)

theorem history_settle (c : Crawler) (fault : Fault) :
    ∃ events, (c.settle fault).world.history = c.world.history ++ events ∧ Quiet events := by
  unfold Crawler.settle
  split
  · obtain ⟨halts, hhalts, hall⟩ := c.world.history_halt fault.reason
    exact ⟨halts, hhalts, quiet_of_halts hall⟩
  · exact ⟨[], (List.append_nil _).symm, rfl, rfl⟩

namespace Inquires

variable {c : Crawler} {r : Result} {q : Inquiry}

theorem lead (h : Inquires source around script c r q) :
    (r.token.bind (detailAddress? source.settings)).isSome = true := by
  obtain ⟨token, address, htoken, haddress, -⟩ := h.start
  rw [htoken, Option.bind_some, haddress]
  rfl

theorem token (h : Inquires source around script c r q) : r.token.isSome = true := by
  obtain ⟨token, -, htoken, -⟩ := h.start
  rw [htoken]
  rfl

/-- An inquiry puts its own execution on record. -/
theorem history (h : Inquires source around script c r q) :
    ∃ events, q.stop.world.history = c.world.history ++ events ∧
      events.filterMap Event.start? = [(script, q.start.session)] ∧
      events.filterMap Event.outcome? = [q.outcome] := by
  obtain ⟨token, address, -, -, hstart⟩ := h.start
  obtain ⟨before, hbefore, hquiet⟩ := c.world.history_poll around
  obtain ⟨during, hduring, hstarts, houtcomes⟩ :=
    history_execute source.engine around script q.start
  rw [h.execute] at hduring houtcomes
  have hworld : q.start.world.history = c.world.history ++ before := by
    rw [hstart]
    exact hbefore
  refine ⟨before ++ during, ?_, ?_, ?_⟩
  · rw [hduring, hworld, List.append_assoc]
  · rw [List.filterMap_append, hquiet.1, hstarts, List.nil_append]
  · rw [List.filterMap_append, hquiet.2, houtcomes, List.nil_append]

end Inquires

namespace Handled

variable {x : Handling}

/-- A turn without an inquiry leaves the result alone. -/
theorem untouched (h : Handled source around script x) (hnone : x.inquiry = none) :
    x.Untouched := by
  cases h with
  | faulted _ _ => cases hnone
  | barren _ _ _ => cases hnone
  | completed _ _ _ => cases hnone
  | _ => exact ⟨rfl, rfl⟩

theorem inquires (h : Handled source around script x) :
    ∀ q ∈ x.inquiry, Inquires source around script x.crawler x.before q := by
  cases h with
  | faulted hasks _ => rintro _ ⟨⟩; exact hasks
  | barren hasks _ _ => rintro _ ⟨⟩; exact hasks
  | completed hasks _ _ => rintro _ ⟨⟩; exact hasks
  | _ => rintro _ ⟨⟩

/-- Where no inquiry is possible, the result is left alone. -/
theorem untouched_of_not_inquires (h : Handled source around script x)
    (hno : ∀ q, ¬ Inquires source around script x.crawler x.before q) : x.Untouched := by
  refine h.untouched (Option.eq_none_iff_forall_not_mem.mpr fun q hq => ?_)
  exact hno q (h.inquires q hq)

/-- A crawler that is halted leaves the result alone. -/
theorem untouched_of_isHalted (h : Handled source around script x)
    (hhalted : x.crawler.isHalted = true) : x.Untouched := by
  refine h.untouched_of_not_inquires fun q hq => ?_
  have hpoll := hq.poll
  rw [poll_of_isHalted hhalted] at hpoll
  cases hpoll

/-- A crawler that is halted stays so. -/
theorem isHalted_left (h : Handled source around script x) (hhalted : x.crawler.isHalted = true) :
    x.left.isHalted = true := by
  have huntouched := h.untouched_of_isHalted hhalted
  cases h with
  | passed _ => exact hhalted
  | dated _ => exact hhalted
  | halted _ => exact isHalted_poll hhalted
  | unresolved _ => exact isHalted_poll hhalted
  | faulted _ _ => cases huntouched.1
  | barren _ _ _ => cases huntouched.1
  | completed _ _ _ => cases huntouched.1

/-- The result changes exactly if it is completed. -/
theorem changed_iff (h : Handled source around script x) :
    x.after ≠ x.before ↔ x.Completed source := by
  refine ⟨fun hchanged => ?_, Handling.Completed.changed⟩
  cases h with
  | @completed c r q v record rest hasks hvalue hrecord =>
      exact {
        token := hasks.token
        lacking := hasks.lacking
        fetched := rfl
        same_source := rfl
        same_token := rfl
        entry := ⟨q, rfl, v, record, rest, hvalue, hrecord, rfl⟩ }
  | _ => exact absurd rfl hchanged

theorem faulted_unchanged (h : Handled source around script x) :
    ∀ q ∈ x.inquiry, ∀ fault, q.outcome = .error fault → x.after = x.before := by
  cases h with
  | completed _ hvalue _ =>
      rintro _ ⟨⟩ fault hfault
      rw [hvalue] at hfault
      cases hfault
  | _ => exact fun _ _ _ _ => rfl

theorem barren_unchanged (h : Handled source around script x) :
    ∀ q ∈ x.inquiry, ∀ v, q.outcome = .ok v → recordsOf v = [] → x.after = x.before := by
  cases h with
  | completed _ hvalue hrecord =>
      rintro _ ⟨⟩ v hv hnone
      obtain rfl := Except.ok.inj (hvalue.symm.trans hv)
      rw [hrecord] at hnone
      cases hnone
  | _ => exact fun _ _ _ _ _ => rfl

theorem completed_otherwise (h : Handled source around script x)
    (hlacking : x.before.fetched = false) (hpoll : (x.crawler.poll around).1 = false)
    (hlead : (x.before.token.bind (detailAddress? source.settings)).isSome = true) :
    ∃ q ∈ x.inquiry, ∀ v, q.outcome = .ok v → recordsOf v ≠ [] → x.Completed source := by
  have hchanged := h.changed_iff
  cases h with
  | passed hhalted => rw [poll_of_isHalted hhalted] at hpoll; cases hpoll
  | dated hfetched => rw [hfetched] at hlacking; cases hlacking
  | halted hhalted => rw [hhalted] at hpoll; cases hpoll
  | unresolved hnone => rw [hnone] at hlead; cases hlead
  | faulted _ hfault =>
      refine ⟨_, rfl, fun v hv _ => ?_⟩
      rw [hfault] at hv
      cases hv
  | barren _ hvalue hnone =>
      refine ⟨_, rfl, fun v hv hsome => ?_⟩
      obtain rfl := Except.ok.inj (hvalue.symm.trans hv)
      exact absurd hnone hsome
  | completed hasks _ _ =>
      exact ⟨_, rfl, fun v _ _ => hchanged.mp (complete_ne hasks.lacking _)⟩

/-- A turn puts its own inquiry on record, and no other execution. -/
theorem history (h : Handled source around script x) :
    ∃ events, x.left.world.history = x.crawler.world.history ++ events ∧
      events.filterMap Event.start? =
        (x.inquiry.map fun q => (script, q.start.session)).toList ∧
      events.filterMap Event.outcome? = (x.inquiry.map Inquiry.outcome).toList := by
  cases h with
  | passed _ => exact ⟨[], (List.append_nil _).symm, rfl, rfl⟩
  | dated _ => exact ⟨[], (List.append_nil _).symm, rfl, rfl⟩
  | halted _ => exact World.history_poll _ around
  | unresolved _ => exact World.history_poll _ around
  | faulted hasks _ =>
      obtain ⟨events, hevents, hstarts, houtcomes⟩ := hasks.history
      obtain ⟨later, hlater, hquiet⟩ := history_settle (Inquiry.leave _ _ _) _
      refine ⟨events ++ later, ?_, ?_, ?_⟩
      · rw [hlater, ← List.append_assoc, ← hevents]
        rfl
      · rw [List.filterMap_append, hstarts, hquiet.1, List.append_nil]
        rfl
      · rw [List.filterMap_append, houtcomes, hquiet.2, List.append_nil]
        rfl
  | barren hasks _ _ => exact hasks.history
  | completed hasks _ _ => exact hasks.history

theorem allOrNothing (h : Handled source around script x) :
    AllOrNothing source around script x where
  changed_iff := h.changed_iff
  inquires := h.inquires
  dated hfetched := h.untouched_of_not_inquires fun q hq => by
    have hlacking := hq.lacking
    rw [hfetched] at hlacking
    cases hlacking
  halted hpoll := h.untouched_of_not_inquires fun q hq => by
    have hgoing := hq.poll
    rw [hpoll] at hgoing
    cases hgoing
  unresolved hnone := h.untouched_of_not_inquires fun q hq => by
    have hlead := hq.lead
    rw [hnone] at hlead
    cases hlead
  faulted := h.faulted_unchanged
  barren := h.barren_unchanged
  otherwise := h.completed_otherwise
  executions := h.history

end Handled

namespace Course

variable {c c' : Crawler} {turns : List Handling}

theorem handled (h : Course source around script c turns c') :
    ∀ x ∈ turns, Handled source around script x := by
  induction h with
  | nil => simp
  | cons hturn _ ih => exact List.forall_mem_cons.mpr ⟨hturn, ih⟩

/-- A crawler that is halted leaves all results alone. -/
theorem untouched (h : Course source around script c turns c') (hhalted : c.isHalted = true) :
    ∀ x ∈ turns, x.Untouched := by
  induction h with
  | nil => simp
  | cons hturn _ ih =>
      exact List.forall_mem_cons.mpr
        ⟨hturn.untouched_of_isHalted hhalted, ih (hturn.isHalted_left hhalted)⟩

/-- Once the crawler is halted, all later results are left alone. -/
theorem untouched_after (h : Course source around script c turns c') :
    turns.Pairwise fun x y => x.left.isHalted = true → y.Untouched := by
  induction h with
  | nil => exact .nil
  | cons _ hrest ih => exact .cons (fun y hy hhalted => hrest.untouched hhalted y hy) ih

/-- The turns put their inquiries on record in order. -/
theorem history (h : Course source around script c turns c') :
    ∃ events, c'.world.history = c.world.history ++ events ∧
      events.filterMap Event.start? =
        (turns.filterMap Handling.inquiry).map (fun q => (script, q.start.session)) ∧
      events.filterMap Event.outcome? =
        (turns.filterMap Handling.inquiry).map Inquiry.outcome := by
  induction h with
  | nil => exact ⟨[], (List.append_nil _).symm, rfl, rfl⟩
  | @cons x xs c' hturn _ ih =>
      obtain ⟨events, hevents, hstarts, houtcomes⟩ := hturn.history
      obtain ⟨later, hlater, hstarts', houtcomes'⟩ := ih
      refine ⟨events ++ later, ?_, ?_, ?_⟩
      · rw [hlater, hevents, List.append_assoc]
      · rw [List.filterMap_append, hstarts, hstarts', List.filterMap_cons]
        cases x.inquiry <;> rfl
      · rw [List.filterMap_append, houtcomes, houtcomes', List.filterMap_cons]
        cases x.inquiry <;> rfl

/-- A halted crawler passes over results without being asked. -/
theorem passed (c : Crawler) (hhalted : c.isHalted = true) (results : List Result) :
    Course source around script c (results.map fun r => ⟨c, r, none, r, c⟩) c := by
  induction results with
  | nil => exact .nil
  | cons r rest ih => exact .cons (.passed hhalted) ih

end Course

/-- An inquiry completes the result and counts it, or leaves it as it is; where the work does not go
on, the crawler is halted. -/
theorem fetchDetail_handled {c : Crawler} {r : Result} {token : String} {address : Url}
    (hlacking : r.fetched = false) (hpoll : (c.poll around).1 = false)
    (htoken : r.token = some token)
    (haddress : detailAddress? source.settings token = some address) (completed : Nat) :
    ∃ x : Handling, Handled source around script x ∧ x.crawler = c ∧ x.before = r ∧
      ∃ goesOn, fetchDetail source around script completed r token address (c.poll around).2 =
          (⟨x.after, x.countOn completed, goesOn⟩, x.left) ∧
        (goesOn = false → x.left.isHalted = true) := by
  let start : Run :=
    ⟨detailSession source (c.poll around).2 token address, (c.poll around).2.world⟩
  unfold fetchDetail
  rcases hexecute : execute source.engine around script start with ⟨outcome, stop⟩
  have hasks : Inquires source around script c r ⟨start, outcome, stop⟩ :=
    ⟨hlacking, hpoll, ⟨token, address, htoken, haddress, rfl⟩, hexecute⟩
  cases outcome with
  | error fault =>
      have hturn := Handled.faulted hasks rfl
      refine ⟨_, hturn, rfl, rfl, !(countedFault source c fault).isFatal, ?_, ?_⟩
      · rw [runScript_of_error hexecute, Handling.countOn, if_pos rfl]
        change (if (countedFault source c fault).isFatal = true then _ else _) = _
        unfold Crawler.settle
        cases (countedFault source c fault).isFatal <;> rfl
      · intro hstop
        have hfatal : (countedFault source c fault).isFatal = true := by simpa using hstop
        simp only [Crawler.settle, if_pos hfatal]
        exact isHalted_halt _ _
  | ok v =>
      rw [runScript_of_ok hexecute]
      cases hrecords : recordsOf v with
      | nil =>
          refine ⟨_, .barren hasks rfl hrecords, rfl, rfl, true, ?_, nofun⟩
          rw [Handling.countOn, if_pos rfl]
          dsimp only
          rw [hrecords]
          rfl
      | cons record rest =>
          refine ⟨_, .completed hasks rfl hrecords, rfl, rfl, true, ?_, nofun⟩
          rw [Handling.countOn, if_neg (complete_ne hlacking record)]
          dsimp only
          rw [hrecords]
          rfl

/-- What comes of some results, of which so many had been completed before: they have their turns in
order, and those that are completed are counted on. -/
structure Handles (source : Source) (around : Surroundings) (script : Script) (start : Crawler)
    (completed : Nat) (results : List Result) (turns : List Handling)
    (ended : (Nat × List Result) × Crawler) : Prop where
  course : Course source around script start turns ended.2
  before : turns.map Handling.before = results
  after : turns.map Handling.after = ended.1.2
  count_eq : ended.1.1 = completed + turns.countP fun x => decide (x.after ≠ x.before)

namespace Handles

variable {x : Handling} {rest : List Result} (hturn : Handled source around script x)
include hturn

/-- The rest has its turns after this one. -/
theorem cons {turns : List Handling} {completed : Nat} {ended : (Nat × List Result) × Crawler}
    (h : Handles source around script x.left (x.countOn completed) rest turns ended) :
    Handles source around script x.crawler completed (x.before :: rest) (x :: turns)
      ((ended.1.1, x.after :: ended.1.2), ended.2) where
  course := .cons hturn h.course
  before := congrArg (x.before :: ·) h.before
  after := congrArg (x.after :: ·) h.after
  count_eq := h.count_eq.trans (x.countOn_add_countP completed turns)

/-- The rest is passed over because the crawler is halted. -/
theorem stop (hhalted : x.left.isHalted = true) (completed : Nat) (rest : List Result) :
    Handles source around script x.crawler completed (x.before :: rest)
      (x :: rest.map fun r => ⟨x.left, r, none, r, x.left⟩)
      ((x.countOn completed, x.after :: rest), x.left) := by
  have hrest : Handles source around script x.left (x.countOn completed) rest
      (rest.map fun r => ⟨x.left, r, none, r, x.left⟩) ((x.countOn completed, rest), x.left) :=
    { course := .passed x.left hhalted rest
      before := by rw [List.map_map]; exact List.map_id rest
      after := by rw [List.map_map]; exact List.map_id rest
      count_eq := by simp }
  exact hrest.cons hturn

end Handles

/-- The results have their turns in order, until the crawler is halted; those that are completed are
counted on the way. -/
theorem fetchEach_handles (results : List Result) (completed : Nat) (c : Crawler) :
    ∃ turns, Handles source around script c completed results turns
      (fetchEach source around script completed c results) := by
  induction results generalizing completed c with
  | nil => exact ⟨[], .nil, rfl, rfl, rfl⟩
  | cons r rest ih =>
      have hnext {x : Handling} (hturn : Handled source around script x) :
          ∃ turns, Handles source around script x.crawler completed (x.before :: rest) turns
            (((fetchEach source around script (x.countOn completed) x.left rest).1.1,
              x.after :: (fetchEach source around script (x.countOn completed) x.left rest).1.2),
              (fetchEach source around script (x.countOn completed) x.left rest).2) := by
        obtain ⟨turns, hturns⟩ := ih (x.countOn completed) x.left
        exact ⟨_, hturns.cons hturn⟩
      have hsame (x : Handling) (h : x.after = x.before) : x.countOn completed = completed :=
        if_pos h
      unfold fetchEach
      dsimp only
      cases hfetched : r.fetched with
      | true =>
          have hturn : Handled source around script ⟨c, r, none, r, c⟩ := .dated hfetched
          have h := hnext hturn
          rw [hsame _ rfl] at h
          exact h
      | false =>
          rw [if_neg Bool.false_ne_true]
          cases hpoll : (c.poll around).1 with
          | true =>
              have hturn : Handled source around script ⟨c, r, none, r, (c.poll around).2⟩ :=
                .halted hpoll
              have h := Handles.stop hturn hpoll completed rest
              rw [hsame _ rfl] at h
              exact ⟨_, h⟩
          | false =>
              rw [if_neg Bool.false_ne_true]
              split
              · next hlead =>
                have hnone : r.token.bind (detailAddress? source.settings) = none := by
                  cases htoken : r.token with
                  | none => rfl
                  | some token => simpa [htoken] using hlead
                have hturn : Handled source around script ⟨c, r, none, r, (c.poll around).2⟩ :=
                  .unresolved hnone
                have h := hnext hturn
                rw [hsame _ rfl] at h
                exact h
              · next token address hlead =>
                obtain ⟨token', htoken, hmap⟩ := Option.bind_eq_some_iff.mp hlead
                obtain ⟨address', haddress, hpair⟩ := Option.map_eq_some_iff.mp hmap
                obtain ⟨rfl, rfl⟩ := Prod.mk.inj hpair
                obtain ⟨x, hturn, rfl, rfl, goesOn, hdetail, hhalted⟩ :=
                  fetchDetail_handled hfetched hpoll htoken haddress completed
                rw [hdetail]
                cases goesOn with
                | true => exact hnext hturn
                | false => exact ⟨_, .stop hturn (hhalted rfl) completed rest⟩

end Turns

/-- What becomes of a list of results when their details are fetched: each of them has its turn, and
the crawler goes from one to the next. -/
structure DetailsFetched (source : Source) (around : Surroundings) (script : Script)
    (start : Crawler) (results : ResultList) (turns : List Handling) (count : Nat)
    (completed : ResultList) (stop : Crawler) : Prop where
  course : Course source around script start turns stop
  /-- The list keeps its length and its order. -/
  before : turns.map Handling.before = results.items
  after : turns.map Handling.after = completed.items
  each : ∀ x ∈ turns, AllOrNothing source around script x
  count_eq : count = turns.countP fun x => decide (x.after ≠ x.before)
  /-- A halt leaves all later results alone. -/
  halted : start.isHalted = true → ∀ x ∈ turns, x.Untouched
  halted_after : turns.Pairwise fun x y => x.left.isHalted = true → y.Untouched
  executions : ∃ events, stop.world.history = start.world.history ++ events ∧
    events.filterMap Event.start? =
      (turns.filterMap Handling.inquiry).map (fun q => (script, q.start.session)) ∧
    events.filterMap Event.outcome? = (turns.filterMap Handling.inquiry).map Inquiry.outcome

/-- Every result is completed from its own execution or stays exactly as it is, and those that are
completed are counted. -/
theorem fetchDetails_all_or_nothing (source : Source) (around : Surroundings) (script : Script)
    (hscript : source.details = some script) (results : ResultList) (c : Crawler) :
    ∃ turns, DetailsFetched source around script c results turns
      (fetchDetails source around results c).1.1 (fetchDetails source around results c).1.2
      (fetchDetails source around results c).2 := by
  obtain ⟨turns, hturns⟩ : ∃ turns, Handles source around script c 0 results.items turns
      (fetchEach source around script 0 c results.items) := fetchEach_handles results.items 0 c
  have heach : ∀ x ∈ turns, AllOrNothing source around script x :=
    fun x hx => (hturns.course.handled x hx).allOrNothing
  have hfetch : fetchDetails source around results c =
      (((fetchEach source around script 0 c results.items).1.1,
        ⟨(fetchEach source around script 0 c results.items).1.2⟩),
        (fetchEach source around script 0 c results.items).2) := by
    rw [fetchDetails, hscript]
  rw [hfetch]
  exact ⟨turns, hturns.course, hturns.before, hturns.after, heach,
    hturns.count_eq.trans (Nat.zero_add _), hturns.course.untouched, hturns.course.untouched_after,
    hturns.course.history⟩

def datingScript : Script where
  commands := [.document "details", .parse [
    .mk .find ((SortedMap.empty.insert "key" "year").insert "pattern" "1999") []]]

def almanack : Source where
  settings := ⟨"almanack", "", .wholeQuery, .paged, 1, 8, 3, none, none, none, false⟩
  engine := .default
  listing := ⟨[]⟩
  exporting := none
  details := some datingScript
  filter := Filter.everything
  converter := Query.formText
  mapper := entryOf

/-- The first result has no token, the second one no address, the third one has its details, and the
page of the last one has no record. -/
def volumes : ResultList where
  items := [⟨"almanack", .empty, none, false⟩, ⟨"almanack", .empty, some "1999", false⟩,
    ⟨"almanack", .empty, some "v:1999", true⟩, ⟨"almanack", .empty, some "v:1999", false⟩,
    ⟨"almanack", .empty, some "v:2024", false⟩]

/-- Only the fourth result is completed, and there have been two executions. -/
theorem fetchDetails_all_or_nothing_volumes :
    almanack.details = some datingScript ∧ ∃ turns completed stop,
      DetailsFetched almanack calm datingScript .initial volumes turns 1 completed stop ∧
      completed.items.map (·.entry.year) = [none, none, none, some 1999, none] ∧
      (turns.filterMap Handling.inquiry).length = 2 := by
  have hrun : ((fetchDetails almanack calm volumes .initial).1.1,
      (fetchDetails almanack calm volumes .initial).1.2.items.map (·.entry.year),
      ((fetchDetails almanack calm volumes .initial).2.world.history.filterMap
        Event.outcome?).length) = (1, [none, none, none, some 1999, none], 2) := by cbv
  obtain ⟨hcount, hrest⟩ := Prod.mk.inj hrun
  obtain ⟨hyears, hlength⟩ := Prod.mk.inj hrest
  obtain ⟨turns, hturns⟩ :=
    fetchDetails_all_or_nothing almanack calm datingScript rfl volumes .initial
  rw [hcount] at hturns
  obtain ⟨events, hevents, -, houtcomes⟩ := hturns.executions
  have hall : (fetchDetails almanack calm volumes .initial).2.world.history = events := hevents
  rw [hall, houtcomes, List.length_map] at hlength
  exact ⟨rfl, turns, _, _, hturns, hyears, hlength⟩

end Harvest.Crawl
