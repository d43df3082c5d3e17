import Harvest.Proofs.Rule.Nodes
import Mathlib

/-!
In which faults evaluations end.

Queries, regular expressions and addresses that are malformed, and references to properties that are
not there, make a value absent and nothing worse. The one fault is that a blank text has to be read
as a document, which only an iteration and a verification do; and these two do end in it.
-/

namespace Harvest.Rule

open Harvest.Markup Harvest.Text

theorem clean_html_eq_error_iff {content : String} {e : Markup.Error} :
    clean .html [] content = .error e ↔ trim content = "" ∧ e = .empty := by
  rw [trim_eq_empty_iff]
  unfold clean
  split
  · next hblank => simp [hblank, eq_comm]
  · next hblank => simp [hblank]

theorem treeOf_blank (op : Operator) {content : String} (h : trim content = "")
    (bag : PropertyBag) : treeOf op (.text content) bag = (.error ⟨op, .empty⟩, bag) := by
  simp only [treeOf]
  rw [clean_html_eq_error_iff.mpr ⟨h, rfl⟩]
  rfl

/-- One of the rules had to read a blank text as a document. -/
structure BlankRead (rules : List Rule) (fault : ParseFault) : Prop where
  reason : fault.reason = Markup.Error.message .empty
  operator : fault.operator = .iterate ∨ fault.operator = .verify
  present : ∃ s ∈ rules, s.op = fault.operator

section BlankRead

variable {rules : List Rule} {base : Option Url} {context : Context} {bag : PropertyBag}

theorem discipline_blankRead (hclosed : Closed rules) :
    Discipline (· ∈ rules) (fun _ => True) (BlankRead rules) where
  child := hclosed
  set _ _ _ _ _ _ _ _ _ _ _ _ _ := trivial
  blank := by
    intro s hs hop content e he
    obtain ⟨-, rfl⟩ := clean_html_eq_error_iff.mp he
    exact ⟨rfl, hop.symm, s, hs, rfl⟩

theorem blankRead_of_error {x : Evaluation Value} (hx : EvaluationOf base context rules x)
    {fault : ParseFault} (h : (x bag).1 = .error fault) : BlankRead rules fault := by
  have hyields := hx.yields (discipline_blankRead hx.closed)
  exact (hyields.of_error trivial (Prod.ext h rfl)).1

/-- Where no rule reads texts as documents, no fault arises. -/
theorem exists_ok_of_no_reader {x : Evaluation Value} (hx : EvaluationOf base context rules x)
    (hnone : ∀ s ∈ rules, s.op ≠ .iterate ∧ s.op ≠ .verify) : ∃ v, (x bag).1 = .ok v := by
  cases hend : (x bag).1 with
  | ok v => exact ⟨v, rfl⟩
  | error fault =>
      obtain ⟨-, hoperator, s, hs, hop⟩ := blankRead_of_error hx hend
      obtain ⟨hiterate, hverify⟩ := hnone s hs
      rw [← hop] at hoperator
      exact absurd hoperator (not_or.mpr ⟨hiterate, hverify⟩)

theorem evaluate_blank {r : Rule} (hop : r.op = .iterate ∨ r.op = .verify) {content : String}
    (h : trim content = "") :
    evaluate base (.text content) r bag = (.error ⟨r.op, .empty⟩, bag) := by
  obtain ⟨op, attributes, children⟩ := r
  -- Both read the text before they do anything else.
  rcases hop with rfl | rfl
  all_goals
    simp only [evaluate]
    rw [bind_apply, treeOf_blank _ h]
    rfl

end BlankRead

/-- An evaluation ends in no fault but that an iteration or a verification among the rules had a
blank text to read, so without such a rule it ends with a value. An iteration or a verification of a
blank text ends in this fault. -/
theorem evaluations_fault_on_blank (base : Option Url) (context : Context) (bag : PropertyBag) :
    (∀ r fault, (evaluate base context r bag).1 = .error fault → BlankRead r.nodes fault) ∧
      (∀ rules fault, (evaluateAll base context rules bag).1 = .error fault →
        BlankRead (nodesOf rules) fault) ∧
      (∀ r : Rule, (∀ s ∈ r.nodes, s.op ≠ .iterate ∧ s.op ≠ .verify) →
        ∃ v, (evaluate base context r bag).1 = .ok v) ∧
      (∀ rules, (∀ s ∈ nodesOf rules, s.op ≠ .iterate ∧ s.op ≠ .verify) →
        ∃ v, (evaluateAll base context rules bag).1 = .ok v) ∧
      ∀ r : Rule, r.op = .iterate ∨ r.op = .verify → ∀ content, trim content = "" →
        evaluate base (.text content) r bag = (.error ⟨r.op, .empty⟩, bag) :=
  ⟨fun r _ => blankRead_of_error (.rule r), fun rules _ => blankRead_of_error (.row rules),
    fun r => exists_ok_of_no_reader (.rule r), fun rules => exists_ok_of_no_reader (.row rules),
    fun _ hop _ => evaluate_blank hop⟩

def partsRule : Rule := .mk .split (.ofList [("delimiter", ",")]) [.mk .verify .empty []]

/-- A blank part of a list cannot be verified, though the list can be split; nor can a blank text be
gone through. -/
theorem evaluations_fault_on_blank_part :
    (evaluate none (.text ", ,") partsRule .empty).1 = .error ⟨.verify, .empty⟩ ∧
      BlankRead partsRule.nodes ⟨.verify, .empty⟩ ∧
      (evaluateAll none (.text ", ,") [partsRule] .empty).1 = .error ⟨.verify, .empty⟩ ∧
      BlankRead (nodesOf [partsRule]) ⟨.verify, .empty⟩ ∧
      (∃ v, (evaluate none (.text ", ,") (.mk .split .empty []) .empty).1 = .ok v) ∧
      (∃ v, (evaluateAll none (.text ", ,") [.mk .split .empty []] .empty).1 = .ok v) ∧
      evaluate none (.text " \n") (.mk .iterate .empty []) .empty =
        (.error ⟨.iterate, .empty⟩, .empty) := by
  have hfault : (evaluate none (.text ", ,") partsRule .empty).1 = .error ⟨.verify, .empty⟩ := by
    cbv
  have hfaultAll : (evaluateAll none (.text ", ,") [partsRule] .empty).1 =
      .error ⟨.verify, .empty⟩ := by cbv
  have hfaults := evaluations_fault_on_blank none (.text ", ,") .empty
  exact ⟨hfault, hfaults.1 _ _ hfault, hfaultAll, hfaults.2.1 _ _ hfaultAll,
    hfaults.2.2.1 _ (by decide), hfaults.2.2.2.1 _ (by decide),
    hfaults.2.2.2.2 _ (.inl rfl) _ (by decide)⟩

end Harvest.Rule
