import Harvest.Proofs.Rule.Density
import Harvest.Proofs.Rule.Nodes
import Mathlib

/-!
Which properties rules read, and which ones they set.

A rule reads a property where an attribute refers to it, behind a dollar sign, and sets one where a
rule inside a property rule has its name. Both are read off the rules before anything is evaluated,
although what is set by one rule may decide what the next one asks for, and under which name it is
kept.

So two evaluations that begin with different properties, but the same ones where the rules refer to
them, cannot be told apart: they come to the same end and set the same properties to the same
values. And what no rule declares is afterwards as it was before, wherever the evaluation ends.
-/

namespace Harvest.Rule

open Harvest.Markup

/-- One of the rules has an attribute that refers to the property. -/
def References (rules : List Rule) (name : String) : Prop :=
  ∃ s ∈ rules, ∃ label, s.attributes.get? label = some ("$" ++ name)

/-- A rule inside one of the property rules has the property as its name. -/
def Declares (rules : List Rule) (name : String) : Prop :=
  ∃ p ∈ rules, p.op = .property ∧ ∃ c ∈ p.children, c.attributes.get? "name" = some name

theorem references_iff {rules : List Rule} {name : String} :
    References rules name ↔ ∃ s ∈ rules, ∃ e ∈ s.attributes.entries, e.2 = "$" ++ name := by
  simp only [References, SortedMap.get?_eq_some_iff]
  constructor
  · rintro ⟨s, hs, label, he⟩
    exact ⟨s, hs, _, he, rfl⟩
  · rintro ⟨s, hs, ⟨label, _⟩, he, rfl⟩
    exact ⟨s, hs, label, he⟩

instance (rules : List Rule) (name : String) : Decidable (References rules name) :=
  decidable_of_iff _ references_iff.symm

instance (rules : List Rule) (name : String) : Decidable (Declares rules name) :=
  inferInstanceAs (Decidable (∃ p ∈ rules, p.op = .property ∧
    ∃ c ∈ p.children, c.attributes.get? "name" = some name))

def AgreeOn (names : String → Prop) (bag other : PropertyBag) : Prop :=
  ∀ name, names name → bag.get? name = other.get? name

section Agreement

variable {names : String → Prop} {bag other : PropertyBag}

theorem AgreeOn.set (h : AgreeOn names bag other) (name : String) (v : Value) :
    AgreeOn names (bag.set name v) (other.set name v) := by
  intro n hn
  by_cases hname : n = name
  · subst hname
    rw [PropertyBag.get?_set, PropertyBag.get?_set]
  · rw [PropertyBag.get?_set_of_ne _ hname, PropertyBag.get?_set_of_ne _ hname]
    exact h n hn

theorem agreeOn_insert {name : String} (h : ¬ names name) (bag : PropertyBag) (v : Value) :
    AgreeOn names bag (bag.insert name v) := by
  intro n hn
  have hne : n ≠ name := fun heq => h (heq ▸ hn)
  exact (SortedMap.get?_insert_of_ne bag hne v).symm

theorem AgreeOn.resolve? (h : AgreeOn names bag other) {raw : String}
    (hraw : ∀ name, raw = "$" ++ name → names name) : bag.resolve? raw = other.resolve? raw := by
  by_cases href : ∃ name, raw = "$" ++ name
  · obtain ⟨name, rfl⟩ := href
    rw [PropertyBag.resolve?_dollar, PropertyBag.resolve?_dollar, h name (hraw name rfl)]
  · have hplain := not_exists.mp href
    rw [PropertyBag.resolve?_plain bag hplain, PropertyBag.resolve?_plain other hplain]

end Agreement

/-- What becomes of a property when two bags are changed by one row of settings. -/
inductive SameFate (writes : List (String × Value)) (name : String)
    (bag other later later' : PropertyBag) : Prop
  | written (v : Value) (hset : (name, v) ∈ writes) (hpresent : v.isNull = false)
    (h : later.get? name = some v) (h' : later'.get? name = some v)
  | removed (hset : (name, .null) ∈ writes) (h : later.get? name = none)
    (h' : later'.get? name = none)
  | kept (hunset : ∀ w ∈ writes, w.1 ≠ name) (h : later.get? name = bag.get? name)
    (h' : later'.get? name = other.get? name)

section Writes

variable {bag other : PropertyBag}

/-- A row of settings leaves a property alone, or makes it what it is to be whatever it was. -/
theorem get?_setAll_cases (writes : List (String × Value)) (name : String) :
    ((∀ w ∈ writes, w.1 ≠ name) ∧ ∀ bag, (setAll bag writes).get? name = bag.get? name) ∨
      ∃ v, (name, v) ∈ writes ∧
        ∀ bag, (setAll bag writes).get? name = if v.isNull then none else some v := by
  induction writes with
  | nil => exact .inl ⟨by simp, fun _ => rfl⟩
  | cons w rest ih =>
      -- A later setting of the same property hides the first one.
      obtain ⟨hne, hkept⟩ | ⟨v, hv, hlast⟩ := ih
      · by_cases hw : w.1 = name
        · subst hw
          refine .inr ⟨w.2, List.mem_cons_self, fun bag => ?_⟩
          rw [← PropertyBag.get?_set bag]
          exact hkept _
        · refine .inl ⟨List.forall_mem_cons.mpr ⟨hw, hne⟩, fun bag => ?_⟩
          rw [← PropertyBag.get?_set_of_ne bag (Ne.symm hw) w.2]
          exact hkept _
      · exact .inr ⟨v, List.mem_cons_of_mem _ hv, fun bag => hlast _⟩

theorem get?_setAll_of_ne {writes : List (String × Value)} {name : String}
    (h : ∀ w ∈ writes, w.1 ≠ name) : (setAll bag writes).get? name = bag.get? name := by
  obtain ⟨-, hkept⟩ | ⟨v, hv, -⟩ := get?_setAll_cases writes name
  · exact hkept bag
  · exact absurd rfl (h _ hv)

theorem sameFate_setAll (writes : List (String × Value)) (name : String) :
    SameFate writes name bag other (setAll bag writes) (setAll other writes) := by
  obtain ⟨hunset, hkept⟩ | ⟨v, hv, hlast⟩ := get?_setAll_cases writes name
  · exact .kept hunset (hkept bag) (hkept other)
  · cases hnull : v.isNull with
    | false =>
        rw [hnull] at hlast
        exact .written v hv hnull (hlast bag) (hlast other)
    | true =>
        obtain rfl := Value.isNull_eq_true_iff.mp hnull
        exact .removed hv (hlast bag) (hlast other)

end Writes

/-- Two evaluations that cannot be told apart, although they began with different properties. -/
structure SameCourse (rules : List Rule) (bag other : PropertyBag)
    (x y : Except ParseFault Value × PropertyBag) : Prop where
  result : x.1 = y.1
  agree : AgreeOn (References rules) x.2 y.2
  /-- Both have set the same properties to the same values in the same order. -/
  writes : ∃ writes, x.2 = setAll bag writes ∧ y.2 = setAll other writes ∧
    ∀ name, SameFate writes name bag other x.2 y.2

section Reading

variable {base : Option Url} {context : Context} {rules : List Rule} {bag other : PropertyBag}

/-- The properties agree where the rules refer to them, and have been set to the same values since
the beginning. -/
def SameSoFar (rules : List Rule) (bag other later later' : PropertyBag) : Prop :=
  AgreeOn (References rules) later later' ∧
    ∃ writes, later = setAll bag writes ∧ later' = setAll other writes

theorem SameSoFar.set {later later' : PropertyBag} (h : SameSoFar rules bag other later later')
    (name : String) (v : Value) :
    SameSoFar rules bag other (later.set name v) (later'.set name v) := by
  obtain ⟨hagree, writes, rfl, rfl⟩ := h
  exact ⟨hagree.set name v, writes ++ [(name, v)], (setAll_concat ..).symm,
    (setAll_concat ..).symm⟩

theorem coupling_references (hclosed : Closed rules) :
    Coupling (· ∈ rules) (SameSoFar rules bag other) fun _ => True where
  child := hclosed
  readSame := by
    intro s hs name later later' hlater
    cases hraw : s.attributes.get? name with
    | none => rfl
    | some raw =>
        exact hlater.1.resolve? fun property hproperty =>
          ⟨s, hs, name, by rw [hraw, hproperty]⟩
  set _ _ _ _ _ _ _ name _ _ _ _ v hlater _ := hlater.set name v
  blank _ _ _ _ _ _ := trivial

theorem sameCourse_of_agreeOn {x : Evaluation Value} (hx : EvaluationOf base context rules x)
    (h : AgreeOn (References rules) bag other) : SameCourse rules bag other (x bag) (x other) := by
  have hcoupling : Coupling (· ∈ rules) (SameSoFar rules bag other) fun _ => True :=
    coupling_references hx.closed
  obtain ⟨hresult, -, hagree, writes, hlater, hlater'⟩ :=
    hx.lockstep hcoupling bag other ⟨h, [], rfl, rfl⟩
  refine ⟨hresult, hagree, writes, hlater, hlater', fun name => ?_⟩
  rw [hlater, hlater']
  exact sameFate_setAll writes name

end Reading

/-- Evaluations read no property but those that an attribute refers to. Without any reference the
result is the same whatever the properties are. -/
theorem evaluations_read_referenced (base : Option Url) (context : Context)
    (bag other : PropertyBag) :
    (∀ r, AgreeOn (References r.nodes) bag other →
        SameCourse r.nodes bag other (evaluate base context r bag)
          (evaluate base context r other)) ∧
      (∀ rules, AgreeOn (References (nodesOf rules)) bag other →
        SameCourse (nodesOf rules) bag other (evaluateAll base context rules bag)
          (evaluateAll base context rules other)) ∧
      ∀ r, (∀ name, ¬ References r.nodes name) →
        (evaluate base context r bag).1 = (evaluate base context r other).1 :=
  ⟨fun r => sameCourse_of_agreeOn (.rule r), fun rules => sameCourse_of_agreeOn (.row rules),
    fun r hnone =>
      (sameCourse_of_agreeOn (.rule r) fun name hname => absurd hname (hnone name)).result⟩

/-- Joins the words of a node, both the separator and the name under which it is kept being
properties. -/
def wordsRule : Rule :=
  .mk .property .empty
    [.mk .collect (.ofList [("name", "$field"), ("separator", "$between")])
      [.mk .concat .empty [.mk .split .empty []]]]

def wordsBag : PropertyBag := .ofList [("between", .scalar "-"), ("field", .scalar "title")]

def nodeWith (content : String) : NodeRef :=
  .ofRoot (Builder.run [.openElement "p" [], .text content]).document

/-- A session number is none of the business of a rule that joins words, nor is any property that of
a rule without attributes. -/
theorem evaluations_read_referenced_words :
    AgreeOn (References wordsRule.nodes) wordsBag (wordsBag.insert "session" (.scalar "7")) ∧
      SameCourse wordsRule.nodes wordsBag (wordsBag.insert "session" (.scalar "7"))
        (evaluate none (.node (nodeWith "Oak ash")) wordsRule wordsBag)
        (evaluate none (.node (nodeWith "Oak ash")) wordsRule
          (wordsBag.insert "session" (.scalar "7"))) ∧
      ((evaluate none (.node (nodeWith "Oak ash")) wordsRule wordsBag).2.get? "title").bind
        Value.text? = some "Oak-ash" ∧
      AgreeOn (References (nodesOf [wordsRule, wordsRule])) wordsBag
        (wordsBag.insert "session" (.scalar "7")) ∧
      SameCourse (nodesOf [wordsRule, wordsRule]) wordsBag
        (wordsBag.insert "session" (.scalar "7"))
        (evaluateAll none (.node (nodeWith "Oak ash")) [wordsRule, wordsRule] wordsBag)
        (evaluateAll none (.node (nodeWith "Oak ash")) [wordsRule, wordsRule]
          (wordsBag.insert "session" (.scalar "7"))) ∧
      (∀ name, ¬ References (Rule.mk .concat .empty []).nodes name) ∧
      (evaluate none (.node (nodeWith "Oak ash")) (.mk .concat .empty []) wordsBag).1 =
        (evaluate none (.node (nodeWith "Oak ash")) (.mk .concat .empty [])
          (wordsBag.insert "session" (.scalar "7"))).1 := by
  have hagree : AgreeOn (References wordsRule.nodes) wordsBag
      (wordsBag.insert "session" (.scalar "7")) := agreeOn_insert (by decide) wordsBag _
  have hagreeAll : AgreeOn (References (nodesOf [wordsRule, wordsRule])) wordsBag
      (wordsBag.insert "session" (.scalar "7")) := agreeOn_insert (by decide) wordsBag _
  have hnone : ∀ name, ¬ References (Rule.mk .concat .empty []).nodes name := by
    rintro name ⟨s, hs, label, hlabel⟩
    obtain rfl := List.mem_singleton.mp hs
    cases hlabel
  have hread := evaluations_read_referenced none (.node (nodeWith "Oak ash")) wordsBag
    (wordsBag.insert "session" (.scalar "7"))
  exact ⟨hagree, hread.1 wordsRule hagree, by cbv, hagreeAll, hread.2.1 _ hagreeAll, hnone,
    hread.2.2 _ hnone⟩

section Setting

variable {base : Option Url} {context : Context} {rules : List Rule} {bag later : PropertyBag}

/-- The properties after some that the rules declare have been set. -/
def WithDeclared (rules : List Rule) (bag later : PropertyBag) : Prop :=
  ∃ writes, later = setAll bag writes ∧ ∀ w ∈ writes, Declares rules w.1

theorem WithDeclared.set (h : WithDeclared rules bag later) {name : String}
    (hname : Declares rules name) (v : Value) : WithDeclared rules bag (later.set name v) := by
  obtain ⟨writes, rfl, hwrites⟩ := h
  refine ⟨writes ++ [(name, v)], (setAll_concat ..).symm, ?_⟩
  rw [List.forall_mem_append]
  exact ⟨hwrites, by simpa using hname⟩

theorem WithDeclared.get?_eq (h : WithDeclared rules bag later) {name : String}
    (hname : ¬ Declares rules name) : later.get? name = bag.get? name := by
  obtain ⟨writes, rfl, hwrites⟩ := h
  exact get?_setAll_of_ne fun w hw hw' => hname (hw' ▸ hwrites w hw)

theorem WithDeclared.eq_of_none (h : WithDeclared rules bag later)
    (hnone : ∀ name, ¬ Declares rules name) : later = bag := by
  obtain ⟨writes, rfl, hwrites⟩ := h
  obtain rfl : writes = [] :=
    List.eq_nil_iff_forall_not_mem.mpr fun w hw => hnone w.1 (hwrites w hw)
  rfl

theorem discipline_declares (hclosed : Closed rules)
    (hplain : ∀ name, Declares rules name → ∀ property, name ≠ "$" ++ property) :
    Discipline (· ∈ rules) (WithDeclared rules bag) fun _ => True where
  child := hclosed
  set := by
    intro p hp hop c hc bag' name _ hname later v hlater _
    obtain ⟨raw, hraw, hname⟩ := Option.bind_eq_some_iff.mp hname
    have hdeclared : Declares rules raw := ⟨p, hp, hop, c, hc, hraw⟩
    rw [PropertyBag.resolve?_plain bag' (hplain raw hdeclared), Option.some_inj] at hname
    exact hlater.set (hname ▸ hdeclared) v
  blank _ _ _ _ _ _ := trivial

theorem withDeclared_of_plain {x : Evaluation Value} (hx : EvaluationOf base context rules x)
    (hplain : ∀ name, Declares rules name → ∀ property, name ≠ "$" ++ property) :
    WithDeclared rules bag (x bag).2 := by
  have hdiscipline : Discipline (· ∈ rules) (WithDeclared rules bag) fun _ => True :=
    discipline_declares hx.closed hplain
  have hyields := hx.yields hdiscipline
  have hbegin : WithDeclared rules bag bag := ⟨[], rfl, by simp⟩
  rcases hend : x bag with ⟨fault | v, later⟩
  · exact (hyields.of_error hbegin hend).2
  · exact (hyields.of_ok hbegin hend).2

/-- Without a property rule nothing is declared. -/
theorem not_declares (h : ∀ s ∈ rules, s.op ≠ .property) (name : String) :
    ¬ Declares rules name := by
  rintro ⟨p, hp, hop, -⟩
  exact h p hp hop

theorem unchanged_of_no_property {x : Evaluation Value} (hx : EvaluationOf base context rules x)
    (h : ∀ s ∈ rules, s.op ≠ .property) : (x bag).2 = bag :=
  (withDeclared_of_plain hx fun name hname => absurd hname (not_declares h name)).eq_of_none
    (not_declares h)

end Setting

/-- Evaluations set no property but those that a rule inside a property rule has as its name, and
none at all without a property rule, whether they end with a value or in a fault. -/
theorem evaluations_set_declared (base : Option Url) (context : Context) (bag : PropertyBag) :
    (∀ r, (∀ name, Declares r.nodes name → ∀ property, name ≠ "$" ++ property) →
        ∀ name, ¬ Declares r.nodes name →
          (evaluate base context r bag).2.get? name = bag.get? name) ∧
      (∀ rules, (∀ name, Declares (nodesOf rules) name → ∀ property, name ≠ "$" ++ property) →
        ∀ name, ¬ Declares (nodesOf rules) name →
          (evaluateAll base context rules bag).2.get? name = bag.get? name) ∧
      (∀ r, (∀ s ∈ r.nodes, s.op ≠ .property) → (evaluate base context r bag).2 = bag) ∧
      ∀ rules, (∀ s ∈ nodesOf rules, s.op ≠ .property) →
        (evaluateAll base context rules bag).2 = bag :=
  ⟨fun r hplain _ hname => (withDeclared_of_plain (.rule r) hplain).get?_eq hname,
    fun rules hplain _ hname => (withDeclared_of_plain (.row rules) hplain).get?_eq hname,
    fun r => unchanged_of_no_property (.rule r), fun rules => unchanged_of_no_property (.row rules)⟩

/-- Sets a property, and then, for another one, reads the parts of a list as documents. -/
def listRule : Rule :=
  .mk .property .empty
    [.mk .concat (.ofList [("name", "title")]) [],
      .mk .concat (.ofList [("name", "parts")])
        [.mk .split (.ofList [("delimiter", ",")]) [.mk .iterate (.ofList [("xpath", "li")]) []]]]

/-- On a list with a blank part the evaluation ends halfway, with one property set and another one
not; what the rule does not declare stays as it was. -/
theorem evaluations_set_declared_halfway :
    (∀ name, Declares listRule.nodes name → ∀ property, name ≠ "$" ++ property) ∧
      ¬ Declares listRule.nodes "field" ∧
      (evaluate none (.node (nodeWith ", ,")) listRule wordsBag).2.get? "field" =
        wordsBag.get? "field" ∧
      (evaluate none (.node (nodeWith ", ,")) listRule wordsBag).1 =
        .error ⟨.iterate, .empty⟩ ∧
      (evaluate none (.node (nodeWith ", ,")) listRule wordsBag).2.keys =
        ["between", "field", "title"] ∧
      (∀ s ∈ nodesOf [Rule.mk .concat .empty []], s.op ≠ .property) ∧
      (evaluateAll none (.node (nodeWith ", ,")) [.mk .concat .empty []] wordsBag).2 =
        wordsBag := by
  have hnames : ∀ p ∈ listRule.nodes, ∀ c ∈ p.children, ∀ raw ∈ c.attributes.get? "name",
      raw.toList.head? ≠ some '$' := by decide
  have hplain : ∀ name, Declares listRule.nodes name → ∀ property, name ≠ "$" ++ property := by
    rintro name ⟨p, hp, -, c, hc, hname⟩ property rfl
    exact hnames p hp c hc _ hname (by simp)
  have hfield : ¬ Declares listRule.nodes "field" := by decide
  have hconcat : ∀ s ∈ nodesOf [Rule.mk .concat .empty []], s.op ≠ .property := by decide
  have hset := evaluations_set_declared none (.node (nodeWith ", ,")) wordsBag
  exact ⟨hplain, hfield, hset.1 listRule hplain _ hfield, by cbv, by cbv, hconcat,
    hset.2.2.2 _ hconcat⟩

end Harvest.Rule
