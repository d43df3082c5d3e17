import Harvest.Proofs.Rule.Evaluation

/-!
The rules that take part in an evaluation.

The nodes of a rule are the rule itself and the nodes of the rules in it. Going from a node to a
rule in it leads to a node again, so what all nodes satisfy is handed down an evaluation, be it of
one rule or of a row of rules.
-/

namespace Harvest.Rule

mutual

def nodes (r : Rule) : List Rule :=
  match r with
  | .mk op attributes children => .mk op attributes children :: nodesOf children

def nodesOf (rules : List Rule) : List Rule :=
  match rules with
  | [] => []
  | r :: rs => r.nodes ++ nodesOf rs

end

theorem nodes_eq (r : Rule) : r.nodes = r :: nodesOf r.children := by
  obtain ⟨op, attributes, children⟩ := r
  rw [nodes]
  rfl

theorem self_mem_nodes (r : Rule) : r ∈ r.nodes := by
  rw [nodes_eq]
  exact List.mem_cons_self

theorem mem_nodesOf {s : Rule} {rules : List Rule} :
    s ∈ nodesOf rules ↔ ∃ r ∈ rules, s ∈ r.nodes := by
  induction rules with
  | nil => simp [nodesOf]
  | cons r rest ih => simp [nodesOf, ih]

/-- What is in a node of a rule is a node of the rule. -/
theorem child_mem_nodes (r : Rule) {s c : Rule} (hs : s ∈ r.nodes) (hc : c ∈ s.children) :
    c ∈ r.nodes := by
  match r with
  | .mk op attributes children =>
      rw [nodes, List.mem_cons, mem_nodesOf] at hs ⊢
      obtain rfl | ⟨q, hq, hs⟩ := hs
      · exact .inr ⟨c, hc, self_mem_nodes c⟩
      · exact .inr ⟨q, hq, child_mem_nodes q hs hc⟩

def Closed (rules : List Rule) : Prop := ∀ s ∈ rules, ∀ c ∈ s.children, c ∈ rules

theorem closed_nodes (r : Rule) : Closed r.nodes := fun _ hs _ hc => child_mem_nodes r hs hc

theorem closed_nodesOf (rules : List Rule) : Closed (nodesOf rules) := by
  intro s hs c hc
  obtain ⟨r, hr, hs⟩ := mem_nodesOf.mp hs
  exact mem_nodesOf.mpr ⟨r, hr, child_mem_nodes r hs hc⟩

theorem mem_nodesOf_of_mem {rules : List Rule} {r : Rule} (h : r ∈ rules) : r ∈ nodesOf rules :=
  mem_nodesOf.mpr ⟨r, h, self_mem_nodes r⟩

/-- The evaluations of rules and of rows of rules, with all rules that take part. -/
inductive EvaluationOf (base : Option Url) (context : Context) :
    List Rule → Evaluation Value → Prop
  | rule (r : Rule) : EvaluationOf base context r.nodes (evaluate base context r)
  | row (rules : List Rule) :
    EvaluationOf base context (nodesOf rules) (evaluateAll base context rules)

section EvaluationOf

variable {base : Option Url} {context : Context} {rules : List Rule} {x : Evaluation Value}
  {F : ParseFault → Prop} (h : EvaluationOf base context rules x)
include h

theorem EvaluationOf.closed : Closed rules := by
  cases h with
  | rule r => exact closed_nodes r
  | row rules => exact closed_nodesOf rules

theorem EvaluationOf.lockstep {B : PropertyBag → PropertyBag → Prop}
    (hrules : Coupling (· ∈ rules) B F) : Lockstep B F Value.Dense x := by
  cases h with
  | rule r => exact (coupled_of_allowed hrules r (self_mem_nodes r)).keepsStep context
  | row rules => exact lockstep_evaluateAll hrules fun _ => mem_nodesOf_of_mem

theorem EvaluationOf.yields {B : PropertyBag → Prop} (hrules : Discipline (· ∈ rules) B F) :
    Yields B F Value.Dense x :=
  (h.lockstep hrules.coupling).triple

end EvaluationOf

end Harvest.Rule
