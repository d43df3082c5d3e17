import Harvest.Proofs.Script.Commands

/-!
What the log has no part in.

Executions write the log and never read it. Where it goes elsewhere, or cannot be written, they send
the same requests, draw the same numbers and end in the same way, if the files that they load read
the same. It lies in the file system, so that to write it may make a folder that the path of such a
file leads through; what is loaded from paths that it does not touch reads the same.
-/

namespace Harvest.Script

open Harvest.Rule

def elsewhere (folders : String → Bool) (writings : List Writing) : List Writing :=
  writings.filter fun x => !folders x.folder

/-- The file at a path reads the same in two file systems, whatever was written to some folders. -/
def ReadsAlike (folders : String → Bool) (files files' : List Writing → FileStore)
    (path : String) : Prop :=
  ∀ ws ws', elsewhere folders ws' = elsewhere folders ws →
    (files' ws').read path = (files ws).read path

/-- Where a log goes: to a folder that can be written or not, or to none; and the file system that
has the folder or lacks it. -/
structure LogPlace where
  folder : Option String
  writable : Bool
  files : List Writing → FileStore

def World.withLog (w : World) (log : List LogEntry) (writings : List Writing) : World :=
  { w with log := log, writings := writings }

def Run.withLog (r : Run) (log : List LogEntry) (writings : List Writing) : Run :=
  { r with world := r.world.withLog log writings }

def Settings.withLog (settings : Settings) (place : LogPlace) : Settings :=
  { settings with logFolder := place.folder }

def Surroundings.withLog (around : Surroundings) (place : LogPlace) : Surroundings :=
  { around with logWritable := place.writable, files := place.files }

/-- From runs that differ in the log alone, and in what was written to some folders, the two actions
come to the same end and leave such runs, if all that the first one loads is from paths of a
kind. -/
def Alike (folders : String → Bool) (kind : String → Prop) {α : Type} (x y : Execution α) : Prop :=
  ∀ r log ws, elsewhere folders ws = elsewhere folders r.world.writings →
    ∃ paths, (x r).2.world.loads = r.world.loads ++ paths ∧
      ((∀ path ∈ paths, kind path) → ∃ log' ws',
        elsewhere folders ws' = elsewhere folders (x r).2.world.writings ∧
          y (r.withLog log ws) = ((x r).1, (x r).2.withLog log' ws'))

section Rules

variable {α β : Type} {folders : String → Bool} {kind : String → Prop}

/-- An action that loads nothing. -/
theorem Alike.of_loads {x y : Execution α} (hloads : ∀ r, (x r).2.world.loads = r.world.loads)
    (h : ∀ r log ws, elsewhere folders ws = elsewhere folders r.world.writings → ∃ log' ws',
      elsewhere folders ws' = elsewhere folders (x r).2.world.writings ∧
        y (r.withLog log ws) = ((x r).1, (x r).2.withLog log' ws')) : Alike folders kind x y :=
  fun r log ws hws => ⟨[], (hloads r).trans (List.append_nil _).symm, fun _ => h r log ws hws⟩

theorem alike_pure (a : α) : Alike folders kind (pure a) (pure a) :=
  .of_loads (fun _ => rfl) fun _ log ws hws => ⟨log, ws, hws, rfl⟩

theorem alike_throw (fault : Fault) :
    Alike folders kind (throw fault : Execution α) (throw fault) :=
  .of_loads (fun _ => rfl) fun _ log ws hws => ⟨log, ws, hws, rfl⟩

theorem Alike.bind {x y : Execution α} {f g : α → Execution β} (h : Alike folders kind x y)
    (hfg : ∀ a, Alike folders kind (f a) (g a)) : Alike folders kind (x >>= f) (y >>= g) := by
  intro r log ws hws
  obtain ⟨paths, hloads, hsame⟩ := h r log ws hws
  rw [bind_apply, bind_apply]
  generalize x r = ended at hloads hsame ⊢
  obtain ⟨fault | a, r'⟩ := ended
  · refine ⟨paths, hloads, fun hpaths => ?_⟩
    obtain ⟨log', ws', hws', hy⟩ := hsame hpaths
    exact ⟨log', ws', hws', by rw [hy]⟩
  · -- What follows loads from the same file system, whatever the first action has written.
    obtain ⟨more, hmore, -⟩ := hfg a r' r'.world.log r'.world.writings rfl
    refine ⟨paths ++ more, ?_, fun hpaths => ?_⟩
    · rw [← List.append_assoc, ← hloads]
      exact hmore
    obtain ⟨hhere, hthere⟩ := List.forall_mem_append.mp hpaths
    obtain ⟨log', ws', hws', hy⟩ := hsame hhere
    obtain ⟨more', hmore', hrest⟩ := hfg a r' log' ws' hws'
    obtain rfl : more' = more := List.append_cancel_left (hmore'.symm.trans hmore)
    rw [hy]
    exact hrest hthere

theorem alike_ite {p : Prop} [Decidable p] {x x' y y' : Execution α} (hx : Alike folders kind x x')
    (hy : Alike folders kind y y') :
    Alike folders kind (if p then x else y) (if p then x' else y') := by
  split
  · exact hx
  · exact hy

/-- What follows may depend on the run, but not on its log. -/
theorem alike_read {f g : Run → Execution β}
    (h : ∀ r log ws, Alike folders kind (f r) (g (r.withLog log ws))) :
    Alike folders kind (get >>= f) (get >>= g) := fun r log ws => h r log ws r log ws

theorem alike_onSession (f : Session → Session) :
    Alike folders kind (onSession f) (onSession f) :=
  .of_loads (fun _ => rfl) fun _ log ws hws => ⟨log, ws, hws, rfl⟩

theorem alike_onWorld {f g : World → α × World} (hloads : ∀ w, (f w).2.loads = w.loads)
    (h : ∀ w log ws, elsewhere folders ws = elsewhere folders w.writings → ∃ log' ws',
      elsewhere folders ws' = elsewhere folders (f w).2.writings ∧
        g (w.withLog log ws) = ((f w).1, (f w).2.withLog log' ws')) :
    Alike folders kind (onWorld f) (onWorld g) := by
  refine .of_loads (fun r => hloads r.world) fun r log ws hws => ?_
  obtain ⟨log', ws', hws', hg⟩ := h r.world log ws hws
  refine ⟨log', ws', hws', ?_⟩
  rw [onWorld_apply, onWorld_apply, Run.withLog, hg]
  rfl

end Rules

namespace World

variable {folders : String → Bool} {folder folder' : Option String}

theorem loads_write (w : World) (folder : Option String) (writable : Bool) (entry : LogEntry) :
    (w.write folder writable entry).loads = w.loads := by
  cases folder <;> rfl

/-- What is written to one of the folders is not elsewhere. -/
theorem elsewhere_write (hfolder : ∀ f ∈ folder, folders f = true) (w : World) (writable : Bool)
    (entry : LogEntry) :
    elsewhere folders (w.write folder writable entry).writings = elsewhere folders w.writings := by
  cases folder with
  | none => rfl
  | some f => simp [write, elsewhere, hfolder f rfl]

theorem write_withLog (hfolder : ∀ f ∈ folder, folders f = true)
    (hfolder' : ∀ f ∈ folder', folders f = true) (w : World) (log : List LogEntry)
    (ws : List Writing) (hws : elsewhere folders ws = elsewhere folders w.writings)
    (writable writable' : Bool) (entry : LogEntry) :
    ∃ log' ws', elsewhere folders ws' = elsewhere folders (w.write folder writable entry).writings ∧
      (w.withLog log ws).write folder' writable' entry =
        (w.write folder writable entry).withLog log' ws' := by
  refine ⟨((w.withLog log ws).write folder' writable' entry).log,
    ((w.withLog log ws).write folder' writable' entry).writings, ?_, ?_⟩
  · rw [elsewhere_write hfolder, elsewhere_write hfolder']
    exact hws
  · cases folder <;> cases folder' <;> rfl

theorem loads_interrupt (w : World) (reason : Option String) :
    (w.interrupt reason).loads = w.loads ∧ (w.interrupt reason).writings = w.writings := by
  unfold interrupt halt
  split
  · split <;> exact ⟨rfl, rfl⟩
  · exact ⟨rfl, rfl⟩

theorem interrupt_withLog (w : World) (log : List LogEntry) (ws : List Writing)
    (reason : Option String) :
    (w.withLog log ws).interrupt reason = (w.interrupt reason).withLog log ws := by
  cases reason with
  | none => rfl
  | some reason =>
      have hsame : (w.withLog log ws).isHalted = w.isHalted := rfl
      simp only [interrupt, halt, hsame]
      split <;> rfl

theorem poll_withLog (w : World) (log : List LogEntry) (ws : List Writing) (around : Surroundings)
    (place : LogPlace) :
    (w.withLog log ws).poll (around.withLog place) =
      ((w.poll around).1, (w.poll around).2.withLog log ws) := by
  simp only [poll, Surroundings.withLog]
  rw [show (w.withLog log ws).polls = w.polls from rfl, interrupt_withLog]
  rfl

theorem fetch_withLog (w : World) (log : List LogEntry) (ws : List Writing)
    (around : Surroundings) (place : LogPlace) (request : Fetch.Request) :
    (w.withLog log ws).fetch (around.withLog place) request =
      ((w.fetch around request).1, (w.fetch around request).2.withLog log ws) := by
  simp only [fetch, Surroundings.withLog]
  rw [show (w.withLog log ws).requests = w.requests from rfl,
    show (w.withLog log ws).record _ = (w.record _).withLog log ws from rfl, interrupt_withLog]

end World

structure LogsIn (folders : String → Bool) (settings : Settings) (place : LogPlace) : Prop where
  here : ∀ f ∈ settings.logFolder, folders f = true
  there : ∀ f ∈ place.folder, folders f = true

section Actions

variable {settings : Settings} {around : Surroundings} {place : LogPlace} {folders : String → Bool}
  {kind : String → Prop}

theorem alike_poll :
    Alike folders kind (onWorld (World.poll · around))
      (onWorld (World.poll · (around.withLog place))) :=
  alike_onWorld (fun w => (w.loads_interrupt _).1) fun w log ws hws =>
    ⟨log, ws, hws.trans (congrArg _ (w.loads_interrupt _).2).symm,
      w.poll_withLog log ws around place⟩

theorem alike_fetch (request : Fetch.Request) :
    Alike folders kind (onWorld (World.fetch · around request))
      (onWorld (World.fetch · (around.withLog place) request)) :=
  alike_onWorld (fun w => (World.loads_interrupt (w.record _) _).1) fun w log ws hws =>
    ⟨log, ws, hws.trans (congrArg _ (World.loads_interrupt (w.record _) _).2).symm,
      w.fetch_withLog log ws around place request⟩

theorem alike_fail (step message : String) :
    Alike folders kind (fail settings step message)
      (fail (settings.withLog place) step message) := by
  refine alike_read fun r log ws => ?_
  exact (alike_onSession _).bind fun _ => alike_ite (alike_throw _) (alike_pure _)

theorem alike_failing (step message : String) :
    Alike folders kind (failing settings step message)
      (failing (settings.withLog place) step message) :=
  (alike_fail step message).bind fun _ => alike_pure _

theorem alike_put (hlogs : LogsIn folders settings place) (logKind : LogKind) (text : String) :
    Alike folders kind (put settings around logKind text)
      (put (settings.withLog place) (around.withLog place) logKind text) := by
  refine (alike_onWorld (fun _ => rfl) fun w log ws hws => ⟨log, ws, hws, rfl⟩).bind fun number =>
    alike_onWorld (fun w => w.loads_write _ _ _) fun w log ws hws => ?_
  obtain ⟨log', ws', hws', hwrite⟩ := w.write_withLog hlogs.here hlogs.there log ws hws
    around.logWritable place.writable ⟨number, logKind, text⟩
  exact ⟨log', ws', hws', congrArg (Prod.mk ()) hwrite⟩

theorem alike_document (name : String) :
    Alike folders kind (document settings name) (document (settings.withLog place) name) := by
  refine alike_read fun r log ws => ?_
  simp only [Run.withLog]
  split
  · exact alike_failing _ _
  · exact alike_pure _
  · split
    · exact alike_pure _
    · exact alike_failing _ _

theorem alike_cleaned (mode : CleanMode) (substitutions : List Substitution) (last : Value) :
    Alike folders kind (cleaned settings mode substitutions last)
      (cleaned (settings.withLog place) mode substitutions last) := by
  unfold cleaned
  split
  · exact alike_pure _
  · split
    · exact alike_pure _
    · exact alike_failing _ _

theorem alike_parsed (rules : List Rule) (last : Value) :
    Alike folders kind (parsed settings rules last)
      (parsed (settings.withLog place) rules last) := by
  refine alike_read fun r log ws => ?_
  refine (alike_onSession _).bind fun _ => ?_
  simp only [Run.withLog]
  split
  · exact alike_pure _
  · exact alike_failing _ _

section Load

variable (hreads : ∀ path, kind path → ReadsAlike folders around.files place.files path)
include hreads

/-- The only action that reads what the log may have changed. -/
theorem alike_onWorld_load (path : String) :
    Alike folders kind (onWorld (World.load · around path))
      (onWorld (World.load · (around.withLog place) path)) := by
  refine fun r log ws hws => ⟨[path], rfl, fun hpath => ⟨log, ws, hws, ?_⟩⟩
  have hread := hreads path (hpath path List.mem_cons_self) r.world.writings ws hws
  rw [onWorld_apply, onWorld_apply]
  exact congrArg (fun text => (Except.ok text, (_ : Run))) hread

theorem alike_load (file : String) :
    Alike folders kind (load settings around file)
      (load (settings.withLog place) (around.withLog place) file) := by
  refine alike_read fun r log ws => ?_
  simp only [Run.withLog]
  split
  · exact alike_failing _ _
  · refine (alike_onWorld_load hreads _).bind fun text => ?_
    split
    · exact alike_pure _
    · exact alike_failing _ _

end Load

variable (hlogs : LogsIn folders settings place)
include hlogs

/-- An attempt sends the same request and gets the same answer. -/
theorem alike_attemptThen (request : Fetch.Request) (address : Url) {again again' : Execution Value}
    (h : Alike folders kind again again') :
    Alike folders kind (attemptThen settings around request address again)
      (attemptThen (settings.withLog place) (around.withLog place) request address again') := by
  refine alike_poll.bind fun halted => ?_
  refine alike_ite (alike_pure _) (alike_read fun r log ws => ?_)
  refine (alike_put hlogs _ _).bind fun _ => ?_
  refine (alike_fetch _).bind fun reply => ?_
  split
  · exact (alike_onSession _).bind fun _ => alike_pure _
  · exact (alike_fail _ _).bind fun _ => h

theorem alike_attempts (request : Fetch.Request) (address : Url) :
    Alike folders kind (attempts settings around request address)
      (attempts (settings.withLog place) (around.withLog place) request address) := by
  have hrounds (n : Nat) :
      Alike folders kind ((attemptThen settings around request address)^[n] (pure .null))
        ((attemptThen (settings.withLog place) (around.withLog place) request address)^[n]
          (pure .null)) := by
    induction n with
    | zero => exact alike_pure _
    | succ n ih =>
        rw [Function.iterate_succ_apply', Function.iterate_succ_apply']
        exact alike_attemptThen hlogs request address ih
  intro r log ws
  -- The errors that are forgiven bound the rounds, in the other run as well.
  have hbound : r.session.forgiven settings < r.session.forgiven settings + 1 :=
    Nat.lt_succ_self _
  have hbound' : (r.withLog log ws).session.forgiven (settings.withLog place) <
      r.session.forgiven settings + 1 := hbound
  rw [← iterate_attemptThen (pure .null) hbound, ← iterate_attemptThen (pure .null) hbound']
  exact hrounds _ r log ws

theorem alike_fetched (c : FetchCommand) (last : Value) :
    Alike folders kind (fetched settings around c last)
      (fetched (settings.withLog place) (around.withLog place) c last) := by
  rw [fetched_eq, fetched_eq]
  refine alike_read fun r log ws => alike_ite (alike_pure _) ?_
  simp only [Run.withLog]
  split
  · exact alike_failing _ _
  · exact alike_attempts hlogs _ _

variable (hreads : ∀ path, kind path → ReadsAlike folders around.files place.files path)
include hreads

theorem alike_step (c : Command) (last : Value) :
    Alike folders kind (step settings around c last)
      (step (settings.withLog place) (around.withLog place) c last) := by
  cases c with
  | document name => exact alike_document name
  | load file => exact alike_load hreads file
  | useCookies => exact (alike_onSession _).bind fun _ => alike_pure _
  | fetch command => exact alike_fetched hlogs command last
  | clean mode substitutions => exact alike_cleaned mode substitutions last
  | structured =>
      unfold step
      dsimp only
      split
      · exact (alike_put hlogs _ _).bind fun _ => alike_pure _
      · exact alike_pure _
  | parse rules => exact alike_parsed rules last
  | save => exact (alike_put hlogs _ _).bind fun _ => alike_pure _

theorem alike_steps (last : Value) (commands : List Command) :
    Alike folders kind (steps settings around last commands)
      (steps (settings.withLog place) (around.withLog place) last commands) := by
  induction commands generalizing last with
  | nil => exact alike_pure _
  | cons c commands ih =>
      refine alike_poll.bind fun halted => alike_ite (alike_pure _) ?_
      refine (alike_onWorld (fun _ => rfl) fun w log ws hws => ⟨log, ws, hws, rfl⟩).bind fun _ => ?_
      refine (alike_step hlogs hreads c last).bind fun v => ?_
      exact alike_ite (alike_pure _) (ih v)

omit hreads in
theorem concluded_withLog (number : Nat) (outcome : Except Fault Value) (w : World)
    (log : List LogEntry) (ws : List Writing)
    (hws : elsewhere folders ws = elsewhere folders w.writings) :
    ∃ log' ws', elsewhere folders ws' =
        elsewhere folders (concluded settings around number outcome w).writings ∧
      concluded (settings.withLog place) (around.withLog place) number outcome (w.withLog log ws) =
        (concluded settings around number outcome w).withLog log' ws' := by
  cases outcome with
  | ok v =>
      exact World.write_withLog hlogs.here hlogs.there (w.record (.ended (.ok v))) log ws hws _ _ _
  | error fault => exact ⟨log, ws, hws, rfl⟩

/-- An execution with another log ends in the same way, and all that it leaves but the log is the
same. -/
theorem alike_execute (script : Script) :
    Alike folders kind (execute settings around script)
      (execute (settings.withLog place) (around.withLog place) script) := by
  intro start log ws hws
  obtain ⟨paths, hloads, hsteps⟩ :=
    alike_steps hlogs hreads .null script.commands (begun script start) log ws hws
  have hbegun : begun script (start.withLog log ws) = (begun script start).withLog log ws := rfl
  rw [execute_eq, execute_eq, hbegun]
  generalize steps settings around .null script.commands (begun script start) = ended
    at hloads hsteps ⊢
  obtain ⟨outcome, r⟩ := ended
  have hconcluded :
      (concluded settings around start.world.drawn outcome r.world).loads = r.world.loads := by
    cases outcome with
    | ok v => exact World.loads_write _ _ _ _
    | error fault => rfl
  refine ⟨paths, hconcluded.trans hloads, fun hpaths => ?_⟩
  obtain ⟨log₁, ws₁, hws₁, hsame⟩ := hsteps hpaths
  rw [hsame]
  obtain ⟨log₂, ws₂, hws₂, hended⟩ := concluded_withLog hlogs start.world.drawn outcome r.world log₁
    ws₁ hws₁
  exact ⟨log₂, ws₂, hws₂, congrArg (fun w => (outcome, (⟨_, w⟩ : Run))) hended⟩

end Actions

end Harvest.Script
