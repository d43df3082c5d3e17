import Harvest.Proofs.Triple
import Harvest.Script.Execution
import Mathlib.Logic.Function.Iterate

/-!
What commands do.

All commands but fetches leave the page and the history as they are, and the count of errors too
unless they fail. A fetch attempts again as long as errors are forgiven: it is a loop whose rounds
are attempts, and the errors that are forgiven bound their number.
-/

namespace Harvest.Script

open Harvest.Rule

def Command.isFetch : Command → Bool
  | .fetch _ => true
  | _ => false

namespace World

theorem token_write (w : World) (folder : Option String) (writable : Bool) (entry : LogEntry) :
    (w.write folder writable entry).token = w.token := by
  cases folder <;> rfl

theorem history_write (w : World) (folder : Option String) (writable : Bool) (entry : LogEntry) :
    (w.write folder writable entry).history = w.history := by
  cases folder <;> rfl

end World

section Actions

variable {settings : Settings} {around : Surroundings}

theorem onWorld_apply {α : Type} (f : World → α × World) (r : Run) :
    onWorld f r = (.ok (f r.world).1, { r with world := (f r.world).2 }) := rfl

theorem onSession_apply (f : Session → Session) (r : Run) :
    onSession f r = (.ok (), { r with session := f r.session }) := rfl

theorem get_apply (r : Run) : (get : Execution Run) r = (.ok r, r) := rfl

theorem put_apply (kind : LogKind) (text : String) (r : Run) :
    put settings around kind text r = (.ok (), { r with
      world := r.world.draw.2.write settings.logFolder around.logWritable
        ⟨r.world.drawn, kind, text⟩ }) := rfl

theorem fail_apply (step message : String) (r : Run) :
    fail settings step message r =
      if r.session.forgiven settings = 0 then
        (.error (tooManyErrors (r.session.errors + 1) step message),
          { r with session := r.session.recordError })
      else (.ok (), { r with session := r.session.recordError }) := by
  simp only [fail, bind_apply, get_apply, onSession_apply]
  split <;> rfl

/-- An error is counted, and ends the execution if none is forgiven any more. -/
theorem triple_fail {P Q : Run → Prop} {E : Fault → Run → Prop} {step message : String}
    (hforgiven : ∀ r, P r → r.session.forgiven settings ≠ 0 →
      Q { r with session := r.session.recordError })
    (hended : ∀ r, P r → r.session.forgiven settings = 0 →
      E (tooManyErrors (r.session.errors + 1) step message)
        { r with session := r.session.recordError }) :
    Triple P (fail settings step message) (fun _ => Q) E := by
  intro r hr
  rw [fail_apply]
  by_cases hnone : r.session.forgiven settings = 0
  · rw [if_pos hnone]
    exact hended r hr hnone
  · rw [if_neg hnone]
    exact hforgiven r hr hnone

end Actions

/-! What errors keep, unless they end the execution, is kept where nothing else happens. -/

section Failing

variable {settings : Settings} {around : Surroundings} {P : Run → Prop} {E : Fault → Run → Prop}
  (hfail : ∀ step message, Triple P (fail settings step message) (fun _ => P) E)
include hfail

theorem triple_failing (step message : String) :
    Triple P (failing settings step message) (fun _ => P) E :=
  Triple.bind (hfail step message) fun _ => triple_return

theorem triple_document (name : String) : Triple P (document settings name) (fun _ => P) E := by
  refine Triple.bind triple_read fun r => ?_
  split
  · exact triple_failing hfail _ _
  · exact triple_return
  · split
    · exact triple_return
    · exact triple_failing hfail _ _

theorem triple_load (hload : ∀ r path, P r → P { r with world := (r.world.load around path).2 })
    (file : String) : Triple P (load settings around file) (fun _ => P) E := by
  refine Triple.bind triple_read fun r => ?_
  split
  · exact triple_failing hfail _ _
  · refine Triple.bind (Q := fun _ => P) (fun r hr => hload r _ hr) fun text => ?_
    split
    · exact triple_return
    · exact triple_failing hfail _ _

theorem triple_cleaned (mode : CleanMode) (substitutions : List Substitution) (last : Value) :
    Triple P (cleaned settings mode substitutions last) (fun _ => P) E := by
  unfold cleaned
  split
  · exact triple_return
  · split
    · exact triple_return
    · exact triple_failing hfail _ _

/-- Rules change the properties, whether they extract a value or not. -/
theorem triple_parsed
    (hbag : ∀ r bag, P r → P { r with session := { r.session with bag := bag } })
    (rules : List Rule) (last : Value) :
    Triple P (parsed settings rules last) (fun _ => P) E := by
  refine Triple.bind triple_read fun r => ?_
  refine Triple.bind (Q := fun _ => P) (triple_modify fun r hr => hbag r _ hr) fun _ => ?_
  split
  · exact triple_return
  · exact triple_failing hfail _ _

end Failing

def Command.leavesSession : Command → Bool
  | .useCookies => false
  | .fetch _ => false
  | .parse _ => false
  | _ => true

/-- What may be said of an execution while such commands run: neither an entry in the log nor a file
that is loaded nor an error breaks it, unless the error ends the execution. -/
structure Tolerant (settings : Settings) (around : Surroundings) (P : Run → Prop)
    (E : Fault → Run → Prop) : Prop where
  put : ∀ kind text, Triple P (put settings around kind text) (fun _ => P) E
  load : ∀ r path, P r → P { r with world := (r.world.load around path).2 }
  fail : ∀ step message, Triple P (fail settings step message) (fun _ => P) E

section Tolerant

variable {settings : Settings} {around : Surroundings} {P : Run → Prop} {E : Fault → Run → Prop}
  (h : Tolerant settings around P E)
include h

/-- What all commands keep that leave the session as it is. -/
theorem tolerant_step {c : Command} (hc : c.leavesSession = true) (last : Value) :
    Triple P (step settings around c last) (fun _ => P) E := by
  cases c with
  | document name => exact triple_document h.fail name
  | load file => exact triple_load h.fail h.load file
  | useCookies => cases hc
  | fetch command => cases hc
  | clean mode substitutions => exact triple_cleaned h.fail mode substitutions last
  | structured =>
      unfold step
      dsimp only
      split
      · exact Triple.bind (h.put _ _) fun _ => triple_return
      · exact triple_return
  | parse rules => cases hc
  | save => exact Triple.bind (h.put _ _) fun _ => triple_return

end Tolerant

/-- What may be said of an execution while commands other than fetches run: it depends on no more
than the page, the errors, the token and the history, and an error keeps it or ends the
execution. -/
structure Robust (settings : Settings) (P : Run → Prop) (E : Fault → Run → Prop) : Prop where
  same : ∀ r r' : Run, r'.session.page = r.session.page → r'.session.errors = r.session.errors →
    r'.world.token = r.world.token → r'.world.history = r.world.history → P r → P r'
  fail : ∀ step message, Triple P (fail settings step message) (fun _ => P) E

section Robust

variable {settings : Settings} {around : Surroundings} {P : Run → Prop} {E : Fault → Run → Prop}
  (h : Robust settings P E)
include h

theorem Robust.tolerant : Tolerant settings around P E where
  put _ _ r hr := h.same r _ rfl rfl (World.token_write _ _ _ _) (World.history_write _ _ _ _) hr
  load r _ hr := h.same r _ rfl rfl rfl rfl hr
  fail := h.fail

theorem robust_onSession {f : Session → Session} (hpage : ∀ s, (f s).page = s.page)
    (herrors : ∀ s, (f s).errors = s.errors) : Triple P (onSession f) (fun _ => P) E :=
  fun r hr => h.same r _ (hpage _) (herrors _) rfl rfl hr

/-- What all commands but fetches keep. -/
theorem robust_step {c : Command} (hc : c.isFetch = false) (last : Value) :
    Triple P (step settings around c last) (fun _ => P) E := by
  cases c with
  | useCookies =>
      exact Triple.bind (robust_onSession h (fun _ => rfl) fun _ => rfl) fun _ => triple_return
  | fetch command => cases hc
  | parse rules =>
      exact triple_parsed h.fail (fun r _ hr => h.same r _ rfl rfl rfl rfl hr) rules last
  | _ => exact tolerant_step h.tolerant rfl last

end Robust

section Attempts

variable (settings : Settings) (around : Surroundings) (request : Fetch.Request) (address : Url)

/-- One attempt of a fetch, and what follows an error that is forgiven. -/
def attemptThen (again : Execution Value) : Execution Value := do
  if ← onWorld (World.poll · around) then return .null
  let r : Run ← get
  let sent := withCookiesOf request r.session
  put settings around .url sent.describe
  match successOf (← onWorld fun w => w.fetch around sent) with
  | .ok response =>
    onSession fun s => s.received address response
    return .scalar response.body
  | .error e =>
    fail settings "fetch" e.message
    again

def attempts : Execution Value := fun r =>
  attempt settings around request address (r.session.forgiven settings) r

def answered (r : Run) : Except Fetch.Error Fetch.Response × World :=
  let sent := withCookiesOf request r.session
  let w := (r.world.poll around).2
  (w.draw.2.write settings.logFolder around.logWritable ⟨w.drawn, .url, sent.describe⟩).fetch around
    sent

variable {settings around request address}

theorem attemptThen_apply (again : Execution Value) (r : Run) :
    attemptThen settings around request address again r =
      if (r.world.poll around).1 then (.ok .null, ⟨r.session, (r.world.poll around).2⟩)
      else match successOf (answered settings around request r).1 with
        | .ok response => (.ok (.scalar response.body),
            ⟨r.session.received address response, (answered settings around request r).2⟩)
        | .error e =>
          if r.session.forgiven settings = 0 then
            (.error (tooManyErrors (r.session.errors + 1) "fetch" e.message),
              ⟨r.session.recordError, (answered settings around request r).2⟩)
          else again ⟨r.session.recordError, (answered settings around request r).2⟩ := by
  rw [attemptThen]
  simp only [bind_apply, onWorld_apply]
  split
  · rfl
  · simp only [bind_apply, onWorld_apply, get_apply, put_apply]
    unfold answered
    dsimp only
    generalize World.fetch _ around (withCookiesOf request r.session) = sent
    cases successOf sent.1 with
    | ok response => rfl
    | error e =>
        simp only [bind_apply, fail_apply]
        by_cases hforgiven : r.session.forgiven settings = 0
        · rw [if_pos hforgiven, if_pos hforgiven]
        · rw [if_neg hforgiven, if_neg hforgiven]

theorem forgiven_recordError (s : Session) :
    s.recordError.forgiven settings = s.forgiven settings - 1 := Nat.sub_succ _ _

theorem page_received (s : Session) (address : Url) (response : Fetch.Response) :
    (s.received address response).page = s.page := by
  cases s with
  | mk _ cookiesEnabled => cases cookiesEnabled <;> rfl

theorem errors_received (s : Session) (address : Url) (response : Fetch.Response) :
    (s.received address response).errors = s.errors := by
  cases s with
  | mk _ cookiesEnabled => cases cookiesEnabled <;> rfl

/-- The attempts of a fetch are a loop. -/
theorem attempts_eq (r : Run) :
    attempts settings around request address r =
      attemptThen settings around request address (attempts settings around request address) r := by
  rw [attempts, attempt, attemptThen]
  simp only [bind_apply, onWorld_apply]
  split
  · rfl
  · simp only [bind_apply, onWorld_apply, get_apply, put_apply]
    generalize World.fetch _ around (withCookiesOf request r.session) = sent
    cases successOf sent.1 with
    | ok response => cases r.session.forgiven settings <;> rfl
    | error e =>
        simp only [bind_apply, fail_apply, onSession_apply]
        -- The loop counts what is forgiven anew in each round; it is one less than before.
        cases hforgiven : r.session.forgiven settings with
        | zero => rfl
        | succ n =>
            have hless : r.session.recordError.forgiven settings = n := by
              rw [forgiven_recordError, hforgiven, Nat.succ_sub_one]
            rw [if_neg (Nat.succ_ne_zero n)]
            dsimp only
            rw [attempts, hless]

/-- What follows an attempt begins with one error less that is forgiven. -/
theorem attemptThen_congr {again again' : Execution Value} {r : Run}
    (h : ∀ r' : Run, r'.session.forgiven settings < r.session.forgiven settings →
      again r' = again' r') :
    attemptThen settings around request address again r =
      attemptThen settings around request address again' r := by
  rw [attemptThen_apply, attemptThen_apply]
  split
  · rfl
  · split
    · rfl
    · split
      · rfl
      · next hforgiven =>
        refine h _ ?_
        rw [forgiven_recordError]
        exact Nat.sub_one_lt hforgiven

/-- The loop is over after as many rounds as errors are forgiven and one more, whatever would follow
them. -/
theorem iterate_attemptThen (again : Execution Value) {n : Nat} {r : Run}
    (h : r.session.forgiven settings < n) :
    (attemptThen settings around request address)^[n] again r =
      attempts settings around request address r := by
  induction n generalizing r with
  | zero => exact absurd h (Nat.not_lt_zero _)
  | succ n ih =>
      rw [Function.iterate_succ_apply', attempts_eq]
      exact attemptThen_congr fun r' hr' => ih (Nat.lt_of_lt_of_le hr' (Nat.le_of_lt_succ h))

/-- What each attempt keeps, its error included, the attempts keep. -/
theorem triple_attempts {P M Q : Run → Prop} {E : Fault → Run → Prop}
    (hhalted : ∀ r, P r → (r.world.poll around).1 = true →
      Q ⟨r.session, (r.world.poll around).2⟩)
    (hsuccess : ∀ r response, P r → (r.world.poll around).1 = false →
      successOf (answered settings around request r).1 = .ok response →
      Q ⟨r.session.received address response, (answered settings around request r).2⟩)
    (herror : ∀ r e, P r → (r.world.poll around).1 = false →
      successOf (answered settings around request r).1 = .error e →
      M ⟨r.session, (answered settings around request r).2⟩)
    (hfail : ∀ message, Triple M (fail settings "fetch" message) (fun _ => P) E) :
    Triple P (attempts settings around request address) (fun _ => Q) E := by
  intro r hr
  -- Each round that goes on leaves one error less that is forgiven.
  induction hforgiven : r.session.forgiven settings using Nat.strongRecOn generalizing r with
  | _ forgiven ih =>
      rw [attempts_eq, attemptThen_apply]
      cases hpoll : (r.world.poll around).1 with
      | true => exact hhalted r hr hpoll
      | false =>
          rw [if_neg Bool.false_ne_true]
          cases hreply : successOf (answered settings around request r).1 with
          | ok response => exact hsuccess r response hr hpoll hreply
          | error e =>
              have hafter := hfail e.message _ (herror r e hr hpoll hreply)
              rw [fail_apply] at hafter
              dsimp only at hafter ⊢
              by_cases hnone : r.session.forgiven settings = 0
              · rw [if_pos hnone] at hafter ⊢
                exact hafter
              · rw [if_neg hnone] at hafter ⊢
                refine ih _ ?_ _ hafter rfl
                rw [forgiven_recordError, ← hforgiven]
                exact Nat.sub_one_lt hnone

theorem fetched_eq (c : FetchCommand) (last : Value) :
    fetched settings around c last = (do
      let r : Run ← get
      if !c.runsOn r.session.page then
        return if last.isNull then .scalar "" else last
      match target r.session c last with
      | .error message => failing settings "fetch" message
      | .ok address => attempts settings around (requestOf r.session c address) address) := by
  funext r
  rw [fetched, bind_apply, bind_apply, get_apply]
  dsimp only
  cases c.runsOn r.session.page with
  | false => rfl
  | true => cases target r.session c last <;> rfl

/-- A fetch that counts on the page and has an address is such a loop. -/
theorem fetched_eq_attempts {c : FetchCommand} {last : Value} {r : Run}
    (hruns : c.runsOn r.session.page = true) (htarget : target r.session c last = .ok address) :
    fetched settings around c last r =
      attempts settings around (requestOf r.session c address) address r := by
  rw [fetched, bind_apply, get_apply]
  dsimp only
  rw [hruns, htarget]
  rfl

/-- A fetch without an address is an error, and one that does not count does nothing. -/
theorem triple_fetched {P Q : Run → Prop} {E : Fault → Run → Prop}
    (hfail : ∀ step message, Triple P (fail settings step message) (fun _ => P) E)
    (hQ : ∀ r, P r → Q r)
    (hattempts : ∀ request address,
      Triple P (attempts settings around request address) (fun _ => Q) E)
    (c : FetchCommand) (last : Value) :
    Triple P (fetched settings around c last) (fun _ => Q) E := by
  intro r hr
  rw [fetched, bind_apply, get_apply]
  dsimp only
  cases c.runsOn r.session.page with
  | false => exact hQ r hr
  | true =>
      cases target r.session c last with
      | ok address => exact hattempts _ address r hr
      | error message =>
          exact (triple_failing hfail "fetch" message).imp
            (fun _ hr => hr) (fun _ => hQ) (fun _ _ hr => hr) r hr

end Attempts

/-- What each command keeps, as the commands that are left grow fewer, executions keep. -/
theorem triple_steps {settings : Settings} {around : Surroundings} {P : List Command → Run → Prop}
    {Q : Run → Prop} {E : Fault → Run → Prop} (hstop : ∀ commands r, P commands r → Q r)
    (hhalted : ∀ commands r, P commands r → (r.world.poll around).1 = true →
      Q ⟨r.session, (r.world.poll around).2⟩)
    (hstep : ∀ c commands last r, P (c :: commands) r → (r.world.poll around).1 = false →
      Triple (Eq ⟨r.session, (r.world.poll around).2.record (.command c last)⟩)
        (step settings around c last) (fun _ => P commands) E)
    (last : Value) (commands : List Command) :
    Triple (P commands) (steps settings around last commands) (fun _ => Q) E := by
  induction commands generalizing last with
  | nil => exact triple_pure (hstop [])
  | cons c commands ih =>
      intro r hr
      rw [steps, bind_apply, onWorld_apply]
      dsimp only
      cases hpoll : (r.world.poll around).1 with
      | true => exact hhalted _ r hr hpoll
      | false =>
          -- An absent value ends the execution, any other one is what the rest begins with.
          refine Triple.bind (hstep c commands last r hr hpoll) (fun v => ?_) _ rfl
          split
          · exact triple_pure (hstop commands)
          · exact ih v

def begun (script : Script) (start : Run) : Run :=
  ⟨start.session.beginExecution, (start.world.record (.began script start.session)).draw.2⟩

/-- The world when an execution has ended: its end is on record and its value, if it has one, in the
log under the number of the execution. -/
def concluded (settings : Settings) (around : Surroundings) (number : Nat)
    (outcome : Except Fault Value) (w : World) : World :=
  match outcome with
  | .ok v => (w.record (.ended outcome)).write settings.logFolder around.logWritable
      ⟨number, .result, v.toJson.pretty 0⟩
  | .error _ => w.record (.ended outcome)

theorem execute_eq (settings : Settings) (around : Surroundings) (script : Script) (start : Run) :
    execute settings around script start =
      let (outcome, r) := steps settings around .null script.commands (begun script start)
      (outcome, ⟨r.session.finishExecution (phaseOf outcome),
        concluded settings around start.world.drawn outcome r.world⟩) := by
  unfold execute begun
  dsimp only [World.draw]
  generalize steps settings around .null script.commands _ = result
  obtain ⟨fault | v, r⟩ := result <;> rfl

/-- An execution runs the commands of its script; then it counts a page and puts its end on
record. -/
theorem execute_apply (settings : Settings) (around : Surroundings) (script : Script)
    (start : Run) : ∃ outcome r w,
      steps settings around .null script.commands (begun script start) = (outcome, r) ∧
      execute settings around script start =
        (outcome, ⟨r.session.finishExecution (phaseOf outcome), w⟩) ∧
      w.token = r.world.token ∧ w.history = r.world.history ++ [.ended outcome] := by
  rw [execute_eq]
  obtain ⟨outcome, r⟩ := steps settings around .null script.commands (begun script start)
  refine ⟨outcome, r, _, rfl, rfl, ?_⟩
  cases outcome with
  | ok v => exact ⟨World.token_write _ _ _ _, World.history_write _ _ _ _⟩
  | error fault => exact ⟨rfl, rfl⟩

end Harvest.Script
