import Harvest.Proofs.Triple
import Harvest.Rule.Interpreter
import Mathlib

/-!
Guards.

A verification stands guard over the rules behind it. If it yields nothing in its turn, its group
yields nothing and what comes after it is not evaluated. Three groups have guards: an extraction,
where a rule without a key guards, a property rule, where one without a name does, and a row of
rules that is no search.

In an extraction and in a row a guard may stand anywhere. A property rule, however, takes its value
from the first rule without a name and evaluates no other one, so a guard behind that rule never has
its turn, and the properties behind it are set whatever it would have said.
-/

namespace Harvest.Rule

open Harvest.Markup

def resolved? (r : Rule) (label : String) (bag : PropertyBag) : Option String :=
  (r.attributes.get? label).bind bag.resolve?

theorem attr?_apply (r : Rule) (label : String) (bag : PropertyBag) :
    attr? r.attributes label bag = (.ok (r.resolved? label bag), bag) := rfl

theorem resolved?_of_none {r : Rule} {label : String} (h : r.attributes.get? label = none)
    (bag : PropertyBag) : r.resolved? label bag = none := by
  rw [resolved?, h]
  rfl

theorem attr?_of_none {r : Rule} {label : String} (h : r.attributes.get? label = none) :
    attr? r.attributes label = pure none := by
  funext bag
  rw [attr?_apply, resolved?_of_none h]
  rfl

section Turns

variable {turn : Rule → PropertyBag → PropertyBag → Prop} {bag mid : PropertyBag}

/-- The rules of a row have their turns one after the other, each with the properties that the one
before it has left. -/
inductive Turns (turn : Rule → PropertyBag → PropertyBag → Prop) :
    List Rule → PropertyBag → PropertyBag → Prop
  | nil (bag : PropertyBag) : Turns turn [] bag bag
  | cons {r : Rule} {rest : List Rule} {bag mid later : PropertyBag} (hturn : turn r bag mid)
    (hrest : Turns turn rest mid later) : Turns turn (r :: rest) bag later

/-- A loop that goes on after each turn goes on behind the rules that have had theirs. -/
theorem Turns.goesOn {σ α : Type} (loop : σ → List Rule → Evaluation α)
    (hturn : ∀ acc r rest bag later, turn r bag later →
      ∃ acc', loop acc (r :: rest) bag = loop acc' rest later)
    {before : List Rule} (h : Turns turn before bag mid) (acc : σ) (rest : List Rule) :
    ∃ acc', loop acc (before ++ rest) bag = loop acc' rest mid := by
  induction h generalizing acc with
  | nil bag => exact ⟨acc, rfl⟩
  | @cons r before bag mid later hr _ ih =>
      obtain ⟨acc', hacc'⟩ := hturn acc r (before ++ rest) bag mid hr
      obtain ⟨last, hlast⟩ := ih acc'
      exact ⟨last, by rw [List.cons_append, hacc', hlast]⟩

end Turns

section Groups

variable {base : Option Url} {context : Context} {r guard : Rule} {bag mid later : PropertyBag}

/-- A rule has had its turn in an extraction: it has been evaluated, and is no guard that failed. -/
def ExtractTurn (base : Option Url) (context : Context) (r : Rule) (bag later : PropertyBag) :
    Prop :=
  ∃ v, evaluate base context r bag = (.ok v, later) ∧
    ¬ (r.op = .verify ∧ r.resolved? "key" bag = none ∧ v = .null)

/-- A rule with a name has had its turn in a property rule: the property is set to its value. -/
def NamedTurn (base : Option Url) (context : Context) (r : Rule) (bag later : PropertyBag) : Prop :=
  ∃ name v mid, r.resolved? "name" bag = some name ∧ evaluate base context r bag = (.ok v, mid) ∧
    later = mid.set name v

/-- A rule has had its turn in a row: it has been evaluated, and was no guard that failed. -/
def RowTurn (base : Option Url) (context : Context) (r : Rule) (bag later : PropertyBag) : Prop :=
  ∃ v, evaluate base context r bag = (.ok v, later) ∧ ¬ (r.op = .verify ∧ v = .null)

theorem extractAll_turn (entries : List (String × Value)) (rest : List Rule)
    (h : ExtractTurn base context r bag later) :
    ∃ entries', extractAll base context entries (r :: rest) bag =
      extractAll base context entries' rest later := by
  obtain ⟨v, hv, hno⟩ := h
  simp only [extractAll]
  rw [bind_apply, attr?_apply]
  cases hkey : r.resolved? "key" bag with
  | some key =>
      dsimp only
      rw [bind_apply, hv]
      exact ⟨_, rfl⟩
  | none =>
      dsimp only
      rw [bind_apply, hv]
      cases v with
      | null =>
          -- Only here could the loop have ended.
          have hop : r.op ≠ .verify := fun hop => hno ⟨hop, hkey, rfl⟩
          dsimp only
          rw [if_neg hop]
          exact ⟨_, rfl⟩
      | scalar _ | list _ | map _ | url _ | node _ => exact ⟨_, rfl⟩

theorem propertyAll_turn (result : Option Value) (rest : List Rule)
    (h : NamedTurn base context r bag later) :
    propertyAll base context result (r :: rest) bag =
      propertyAll base context result rest later := by
  obtain ⟨name, v, mid, hname, hv, rfl⟩ := h
  simp only [propertyAll]
  rw [bind_apply, attr?_apply, hname]
  dsimp only
  rw [bind_apply, hv]
  rfl

theorem evaluateSequence_turn (result : Value) (rest : List Rule)
    (h : RowTurn base context r bag later) :
    ∃ result', evaluateSequence base context result (r :: rest) bag =
      evaluateSequence base context result' rest later := by
  obtain ⟨v, hv, hno⟩ := h
  refine ⟨v, ?_⟩
  have hgoesOn : (v.isNull && r.op == .verify) = false := by
    cases v <;> simp_all [Value.isNull]
  rw [evaluateSequence, bind_apply, hv]
  dsimp only
  rw [hgoesOn]
  rfl

variable (hop : guard.op = .verify) (hfails : evaluate base context guard mid = (.ok .null, later))
include hop hfails

theorem extractAll_guard (hkey : guard.attributes.get? "key" = none)
    (entries : List (String × Value)) (after : List Rule) :
    extractAll base context entries (guard :: after) mid = (.ok none, later) := by
  simp only [extractAll]
  rw [attr?_of_none hkey, pure_bind]
  dsimp only
  rw [bind_apply, hfails]
  dsimp only
  rw [if_pos hop]
  rfl

theorem propertyAll_guard (hname : guard.attributes.get? "name" = none) (after : List Rule) :
    propertyAll base context none (guard :: after) mid = (.ok .null, later) := by
  simp only [propertyAll]
  rw [attr?_of_none hname, pure_bind]
  dsimp only
  rw [bind_apply, hfails, hop]
  rfl

theorem evaluateSequence_guard (result : Value) (after : List Rule) :
    evaluateSequence base context result (guard :: after) mid = (.ok .null, later) := by
  rw [evaluateSequence, bind_apply, hfails, hop]
  rfl

end Groups

section Unnamed

variable {base : Option Url} {context : Context} {unnamed guard : Rule}

/-- A property rule that has its value passes over rules without a name. -/
theorem propertyAll_passes_over (hguard : guard.attributes.get? "name" = none) (v : Value)
    (before after : List Rule) :
    propertyAll base context (some v) (before ++ guard :: after) =
      propertyAll base context (some v) (before ++ after) := by
  induction before with
  | nil =>
      rw [List.nil_append, propertyAll, attr?_of_none hguard, pure_bind]
      rfl
  | cons r before ih => simp only [List.cons_append, propertyAll, ih]

/-- Behind a rule without a name, a property rule passes over the other ones without a name. -/
theorem propertyAll_passes_over_behind (hunnamed : unnamed.attributes.get? "name" = none)
    (hguard : guard.attributes.get? "name" = none) (result : Option Value)
    (first second after : List Rule) :
    propertyAll base context result (first ++ unnamed :: (second ++ guard :: after)) =
      propertyAll base context result (first ++ unnamed :: (second ++ after)) := by
  induction first generalizing result with
  | nil =>
      simp only [List.nil_append, propertyAll, attr?_of_none hunnamed, pure_bind,
        propertyAll_passes_over hguard]
  | cons r first ih => simp only [List.cons_append, propertyAll, ih]

end Unnamed

theorem evaluateAll_of_not_search {base : Option Url} {context : Context} {rules : List Rule}
    (h : ∀ r ∈ rules.head?, r.op.isSearch = false) :
    evaluateAll base context rules =
      evaluateSequence base context context.toValue rules := by
  cases rules with
  | nil => rfl
  | cons r rest =>
      have hr : r.op.isSearch = false := h r rfl
      simp only [evaluateAll, hr, Bool.false_eq_true, if_false]

/-- A verification that yields nothing in its turn ends its group: the group yields nothing, and the
properties stay as the verification left them, whatever comes behind it. It has its turn in an
extraction behind any rules, in a property rule behind rules with a name, and in a row behind any
rules unless they are a search. Behind a rule without a name, a property rule is the same without
it. -/
theorem failed_guard_ends_group (base : Option Url) (node : NodeRef) (guard : Rule)
    (before after : List Rule) (bag mid later : PropertyBag) (hop : guard.op = .verify)
    (hfails : evaluate base (.node node) guard mid = (.ok .null, later)) :
    (∀ attributes, guard.attributes.get? "key" = none →
        Turns (ExtractTurn base (.node node)) before bag mid →
        evaluate base (.node node) (.mk .extract attributes (before ++ guard :: after)) bag =
          (.ok .null, later)) ∧
      (∀ attributes, guard.attributes.get? "name" = none →
        Turns (NamedTurn base (.node node)) before bag mid →
        evaluate base (.node node) (.mk .property attributes (before ++ guard :: after)) bag =
          (.ok .null, later)) ∧
      (∀ attributes unnamed second, unnamed.attributes.get? "name" = none →
        guard.attributes.get? "name" = none →
        evaluate base (.node node)
            (.mk .property attributes (before ++ unnamed :: (second ++ guard :: after))) =
          evaluate base (.node node)
            (.mk .property attributes (before ++ unnamed :: (second ++ after)))) ∧
      ((∀ r ∈ before.head?, r.op.isSearch = false) →
        Turns (RowTurn base (.node node)) before bag mid →
        evaluateAll base (.node node) (before ++ guard :: after) bag = (.ok .null, later)) := by
  refine ⟨fun attributes hkey hturns => ?_, fun attributes hname hturns => ?_,
    fun attributes unnamed second hunnamed hname => ?_, fun hsearch hturns => ?_⟩
  -- The turns before the guard bring each loop to it, with whatever has been gathered by then.
  · obtain ⟨entries, hreached⟩ := hturns.goesOn (extractAll base (.node node))
      (fun entries _ rest _ _ h => extractAll_turn entries rest h) [] (guard :: after)
    simp only [evaluate]
    rw [bind_apply, hreached, extractAll_guard hop hfails hkey]
    rfl
  · obtain ⟨_, hreached⟩ := hturns.goesOn
      (fun (_ : Unit) rules => propertyAll base (.node node) none rules)
      (fun _ _ rest _ _ h => ⟨(), propertyAll_turn none rest h⟩) () (guard :: after)
    simp only [evaluate]
    rw [hreached, propertyAll_guard hop hfails hname]
  · simp only [evaluate]
    exact propertyAll_passes_over_behind hunnamed hname none before second after
  · have hfirst : ∀ r ∈ (before ++ guard :: after).head?, r.op.isSearch = false := by
      cases before with
      | nil =>
          rintro r ⟨⟩
          rw [hop]
          rfl
      | cons r rest => exact hsearch
    obtain ⟨value, hreached⟩ := hturns.goesOn (evaluateSequence base (.node node))
      (fun value _ rest _ _ h => evaluateSequence_turn value rest h)
      (Context.node node).toValue (guard :: after)
    rw [evaluateAll_of_not_search hfirst, hreached, evaluateSequence_guard hop hfails]

def volumePage : NodeRef :=
  .ofRoot (Builder.run [.openElement "p" [], .text "Volume 12"]).document

/-- A guard against all pages but those of an issue. -/
def issueGuard : Rule := .mk .verify .empty [.mk .expect (.ofList [("regex", "Issue")]) []]

def pageText (attributes : List (String × String)) : Rule := .mk .concat (.ofList attributes) []

def titled : PropertyBag := .ofList [("title", .scalar "Volume 12")]

theorem evaluate_issueGuard (bag : PropertyBag) :
    evaluate none (.node volumePage) issueGuard bag = (.ok .null, bag) := by cbv

theorem evaluate_pageText {attributes : List (String × String)}
    (h : (SortedMap.ofList attributes).get? "xpath" = none) (bag : PropertyBag) :
    evaluate none (.node volumePage) (pageText attributes) bag =
      (.ok (.scalar "Volume 12"), bag) := by
  have htext : Text.trim volumePage.textContent = "Volume 12" := by cbv
  simp only [pageText, evaluate, h, htext, chain, Option.isNone_none, if_true]
  rfl

/-- Behind one other rule the guard of a page of a volume ends an extraction, a property rule and a
row, and only in the property rule has anything been set before. A property rule that has its value
is the same without the guard. -/
theorem failed_guard_ends_group_volume :
    evaluate none (.node volumePage) issueGuard .empty = (.ok .null, .empty) ∧
      evaluate none (.node volumePage) issueGuard titled = (.ok .null, titled) ∧
      evaluate none (.node volumePage)
          (.mk .extract .empty
            [pageText [("key", "title")], issueGuard, pageText [("key", "kind")]]) .empty =
        (.ok .null, .empty) ∧
      evaluate none (.node volumePage)
          (.mk .property .empty
            [pageText [("name", "title")], issueGuard, pageText [("name", "kind")]]) .empty =
        (.ok .null, titled) ∧
      evaluate none (.node volumePage)
          (.mk .property .empty [pageText [], issueGuard, pageText [("name", "kind")]]) =
        evaluate none (.node volumePage)
          (.mk .property .empty [pageText [], pageText [("name", "kind")]]) ∧
      evaluateAll none (.node volumePage) [pageText [], issueGuard, pageText []] .empty =
        (.ok .null, .empty) := by
  have hextract : Turns (ExtractTurn none (.node volumePage)) [pageText [("key", "title")]]
      .empty .empty := .cons ⟨_, evaluate_pageText (by decide) _, by simp⟩ (.nil _)
  have hproperty : Turns (NamedTurn none (.node volumePage)) [pageText [("name", "title")]]
      .empty titled :=
    .cons ⟨"title", _, _, by decide, evaluate_pageText (by decide) _, by cbv⟩ (.nil _)
  have hrow : Turns (RowTurn none (.node volumePage)) [pageText []] .empty .empty :=
    .cons ⟨_, evaluate_pageText (by decide) _, by simp⟩ (.nil _)
  have hguard (before after : List Rule) (bag mid : PropertyBag) :=
    failed_guard_ends_group none volumePage issueGuard before after bag mid mid rfl
      (evaluate_issueGuard mid)
  exact ⟨evaluate_issueGuard .empty, evaluate_issueGuard titled,
    (hguard [_] [_] .empty .empty).1 .empty rfl hextract,
    (hguard [_] [_] .empty titled).2.1 .empty rfl hproperty,
    (hguard [] [_] .empty .empty).2.2.1 .empty (pageText []) [] rfl rfl,
    (hguard [_] [_] .empty .empty).2.2.2 (by rintro r ⟨⟩; rfl) hrow⟩

/-- The rule in front of the guard has its turn and the guard would yield nothing then, and yet the
property behind it is set. -/
theorem late_guard_is_passed_over :
    evaluate none (.node volumePage) (pageText []) .empty =
        (.ok (.scalar "Volume 12"), .empty) ∧
      evaluate none (.node volumePage) issueGuard .empty = (.ok .null, .empty) ∧
      evaluate none (.node volumePage)
          (.mk .property .empty
            [pageText [], issueGuard, pageText [("name", "nextpage")]]) .empty =
        (.ok (.scalar "Volume 12"), .ofList [("nextpage", .scalar "Volume 12")]) := by
  have hpassedOver : evaluate none (.node volumePage)
      (.mk .property .empty [pageText [], issueGuard, pageText [("name", "nextpage")]]) .empty =
        (.ok (.scalar "Volume 12"), .ofList [("nextpage", .scalar "Volume 12")]) := by cbv
  exact ⟨evaluate_pageText (by decide) .empty, evaluate_issueGuard .empty, hpassedOver⟩

end Harvest.Rule
