import Harvest.HaltToken
import Harvest.Proofs.Triple
import Mathlib.Data.List.Induction

/-!
Who is told of a halt.

Whatever is done to a token, it follows from the history what has become of it: it has the reason
of the first halt, and everyone who has begun to listen has been told this reason, once for each
time, in the order of the beginnings. Those who waited were told at the first halt, the others when
they began. That a listener fails makes no difference to anyone else.
-/

namespace Harvest

section Telling

variable (reason : String) (calls : List (Listener × String))

/-- Whoever is told has been told, whether he fails then or not, and the telling goes on. -/
theorem tell_apply (l : Listener) : tell reason l calls = (.ok (), calls ++ [(l, reason)]) := by
  obtain ⟨name, fails⟩ := l
  cases fails <;> rfl

theorem tellAll_apply (ls : List Listener) :
    tellAll reason ls calls = (.ok (), calls ++ ls.map (·, reason)) := by
  induction ls generalizing calls with
  | nil => exact congrArg (Prod.mk _) (List.append_nil calls).symm
  | cons l ls ih =>
      rw [tellAll, bind_apply, tell_apply]
      dsimp only
      rw [ih, List.append_assoc, List.singleton_append, List.map_cons]

end Telling

namespace HaltToken

inductive Operation
  | halt (reason : String)
  | onHalt (l : Listener)
  deriving DecidableEq, Repr

def Operation.reason? : Operation → Option String
  | .halt reason => some reason
  | .onHalt _ => none

def Operation.listener? : Operation → Option Listener
  | .halt _ => none
  | .onHalt l => some l

def perform (t : HaltToken) : Operation → HaltToken
  | .halt reason => t.halt reason
  | .onHalt l => t.onHalt l

def after (ops : List Operation) : HaltToken := ops.foldl perform .running

def firstReason? (ops : List Operation) : Option String := ops.findSome? Operation.reason?

/-- Everyone who begins to listen, once for each time. -/
def listeners (ops : List Operation) : List Listener := ops.filterMap Operation.listener?

def ofHistory (ops : List Operation) : HaltToken :=
  match firstReason? ops with
  | none => ⟨none, listeners ops, []⟩
  | some reason => ⟨some reason, [], (listeners ops).map (·, reason)⟩

section Steps

variable {ops : List Operation} {reason : String}

theorem after_concat (ops : List Operation) (op : Operation) :
    after (ops ++ [op]) = (after ops).perform op := by
  simp only [after, List.foldl_append, List.foldl_cons, List.foldl_nil]

theorem firstReason?_append (ops later : List Operation) :
    firstReason? (ops ++ later) = (firstReason? ops).or (firstReason? later) :=
  List.findSome?_append

theorem firstReason?_concat (ops : List Operation) (op : Operation) :
    firstReason? (ops ++ [op]) = (firstReason? ops).or op.reason? := by
  rw [firstReason?_append]
  cases op <;> rfl

theorem listeners_concat (ops : List Operation) (op : Operation) :
    listeners (ops ++ [op]) = listeners ops ++ op.listener?.toList := by
  rw [listeners, List.filterMap_append]
  cases op <;> rfl

theorem Operation.reason?_eq_some_iff {op : Operation} :
    op.reason? = some reason ↔ op = .halt reason := by
  cases op <;> simp [Operation.reason?]

theorem firstReason?_eq_none_iff : firstReason? ops = none ↔ ∀ reason, .halt reason ∉ ops := by
  rw [firstReason?, List.findSome?_eq_none_iff]
  constructor
  · intro h reason hmem
    cases h _ hmem
  · intro h op hop
    cases op with
    | halt reason => exact absurd hop (h reason)
    | onHalt l => rfl

theorem firstReason?_eq_some_iff : firstReason? ops = some reason ↔
    ∃ before later, ops = before ++ .halt reason :: later ∧ ∀ other, .halt other ∉ before := by
  rw [firstReason?, List.findSome?_eq_some_iff]
  constructor
  · rintro ⟨before, op, later, hops, hop, hbefore⟩
    obtain rfl := Operation.reason?_eq_some_iff.mp hop
    exact ⟨before, later, hops,
      firstReason?_eq_none_iff.mp (List.findSome?_eq_none_iff.mpr hbefore)⟩
  · rintro ⟨before, later, hops, hbefore⟩
    exact ⟨before, .halt reason, later, hops, rfl,
      List.findSome?_eq_none_iff.mp (firstReason?_eq_none_iff.mpr hbefore)⟩

/-- A halt tells those who wait if it is the first one, and nobody otherwise. -/
theorem perform_ofHistory (ops : List Operation) (op : Operation) :
    (ofHistory ops).perform op = ofHistory (ops ++ [op]) := by
  unfold ofHistory
  rw [firstReason?_concat, listeners_concat]
  cases hfirst : firstReason? ops with
  | none =>
      cases op with
      | halt reason =>
          simp [perform, halt, tellAll_apply, Operation.reason?, Operation.listener?]
      | onHalt l => rfl
  | some first =>
      cases op with
      | halt reason => simp [perform, halt, Operation.listener?]
      | onHalt l => simp [perform, onHalt, tell_apply, Operation.listener?]

/-- A token is what its history makes of it. -/
theorem after_eq (ops : List Operation) : after ops = ofHistory ops := by
  induction ops using List.reverseRecOn with
  | nil => rfl
  | append_singleton ops op ih => rw [after_concat, ih, perform_ofHistory]

theorem reason_after (ops : List Operation) : (after ops).reason = firstReason? ops := by
  rw [after_eq, ofHistory]
  split <;> next hfirst => exact hfirst.symm

theorem isHalted_after (ops : List Operation) :
    (after ops).isHalted = true ↔ ∃ reason, .halt reason ∈ ops := by
  rw [isHalted, reason_after, Option.isSome_iff_ne_none, Ne, firstReason?_eq_none_iff]
  simp

theorem firstReason?_of_going (h : (after ops).isHalted = false) : firstReason? ops = none := by
  rw [← reason_after]
  simpa [isHalted] using h

theorem calls_of_going (h : firstReason? ops = none) : (after ops).calls = [] := by
  rw [after_eq, ofHistory, h]

theorem calls_of_halted (h : firstReason? ops = some reason) :
    (after ops).calls = (listeners ops).map (·, reason) := by
  rw [after_eq, ofHistory, h]

theorem told_of_halted (h : firstReason? ops = some reason) (l : Listener) :
    (after ops).told l = .replicate ((listeners ops).count l) reason := by
  rw [told, calls_of_halted h]
  induction listeners ops with
  | nil => rfl
  | cons first rest ih =>
      rw [List.map_cons, List.filter_cons, List.count_cons]
      split
      · rw [List.map_cons, ih, List.replicate_succ]
      · exact ih

end Steps

/-- What has become of a token after operations, and what a further operation makes of it. -/
structure Delivery (ops : List Operation) : Prop where
  halted_iff : (after ops).isHalted = true ↔ ∃ reason, .halt reason ∈ ops
  /-- The reason is that of the first halt. -/
  reason_iff : ∀ reason, (after ops).reason = some reason ↔
    ∃ before later, ops = before ++ .halt reason :: later ∧ ∀ other, .halt other ∉ before
  /-- The halt and its reason last. -/
  remains : ∀ reason, (after ops).reason = some reason →
    ∀ later, (after (ops ++ later)).reason = some reason
  untold : (after ops).isHalted = false → (after ops).calls = []
  /-- Whoever has begun to listen has been told, once for each time and in this order. -/
  told_all : ∀ reason, (after ops).reason = some reason →
    (after ops).calls = (listeners ops).map (·, reason)
  told_each : ∀ reason, (after ops).reason = some reason →
    ∀ l, (after ops).told l = .replicate ((listeners ops).count l) reason
  /-- The first halt tells all who wait. -/
  first_halt : (after ops).isHalted = false → ∀ reason,
    (after (ops ++ [.halt reason])).calls = (listeners ops).map (·, reason)
  later_halt : (after ops).isHalted = true → ∀ reason, after (ops ++ [.halt reason]) = after ops
  /-- Before the halt nobody is told, and after it everyone at once. -/
  early : (after ops).isHalted = false → ∀ l, (after (ops ++ [.onHalt l])).calls = []
  late : ∀ reason, (after ops).reason = some reason →
    ∀ l, (after (ops ++ [.onHalt l])).calls = (after ops).calls ++ [(l, reason)]
  /-- The telling comes to its end whoever fails. -/
  returns : ∀ reason, (tellAll reason (after ops).waiting (after ops).calls).1 = .ok ()

/-- Everyone who listens to a token is told the first reason once, at the halt or when the listening
begins, whoever fails. -/
theorem listeners_told_once (ops : List Operation) : Delivery ops where
  halted_iff := isHalted_after ops
  reason_iff _ := by rw [reason_after, firstReason?_eq_some_iff]
  remains reason hreason later := by
    rw [reason_after] at hreason
    rw [reason_after, firstReason?_append, hreason, Option.some_or]
  untold hgoing := calls_of_going (firstReason?_of_going hgoing)
  told_all _ hreason := calls_of_halted (reason_after ops ▸ hreason)
  told_each _ hreason := told_of_halted (reason_after ops ▸ hreason)
  first_halt hgoing reason := by
    have hfirst : firstReason? (ops ++ [.halt reason]) = some reason := by
      rw [firstReason?_concat, firstReason?_of_going hgoing]
      rfl
    rw [calls_of_halted hfirst, listeners_concat]
    exact congrArg _ (List.append_nil _)
  later_halt hhalted reason := by
    obtain ⟨first, hfirst⟩ := Option.isSome_iff_exists.mp hhalted
    rw [after_concat, perform, halt, hfirst]
  early hgoing l := by
    refine calls_of_going ?_
    rw [firstReason?_concat, firstReason?_of_going hgoing]
    rfl
  late reason hreason l := by
    rw [after_concat, perform, onHalt, hreason]
    exact congrArg Prod.snd (tell_apply reason (after ops).calls l)
  returns reason := congrArg Prod.fst (tellAll_apply reason (after ops).calls (after ops).waiting)

/-- One who fails is told before another one and after him. -/
example :
    let ops := [.onHalt ⟨"fragile", true⟩, .onHalt ⟨"host", false⟩, .halt "",
      .onHalt ⟨"fragile", true⟩, .halt "again"]
    (after ops).reason = some "" ∧ (after ops).told ⟨"fragile", true⟩ = ["", ""] ∧
      (after ops).told ⟨"host", false⟩ = [""] := by
  decide

end HaltToken

end Harvest
