import Harvest.Proofs.Triple
import Harvest.Rule.Interpreter

/-!
What evaluations keep.

An evaluation reads properties only where attributes refer to them, changes them only where a rule
inside a property rule has a name, and fails only where a text is read as a document. So two
evaluations keep step as long as the attributes say the same in both; the operators are gone through
once, for two evaluations side by side, and what one evaluation keeps is read off.

Lists and maps are built from values that are not absent, and only where there is one. So no value
of a rule has an empty list or map in it, nor an absent member.
-/

namespace Harvest.Rule

open Harvest.Markup Harvest.Text

/-- No list and no map in a value is empty or has an absent member. -/
inductive Value.Dense : Value → Prop
  | null : Dense .null
  | scalar (text : String) : Dense (.scalar text)
  | url (address : Url) : Dense (.url address)
  | node (node : NodeRef) : Dense (.node node)
  | list {items : List Value} (hne : items ≠ []) (hpresent : ∀ v ∈ items, v.isNull = false)
    (hdense : ∀ v ∈ items, Dense v) : Dense (.list items)
  | map {entries : List (String × Value)} (hne : entries ≠ [])
    (hpresent : ∀ e ∈ entries, e.2.isNull = false) (hdense : ∀ e ∈ entries, Dense e.2) :
    Dense (.map entries)

/-- A value that may be a member of another one, or a property. -/
structure Value.Solid (v : Value) : Prop where
  present : v.isNull = false
  dense : v.Dense

def SolidEntries (entries : List (String × Value)) : Prop := ∀ e ∈ entries, e.2.Solid

structure Found.Dense (f : Found) : Prop where
  entries : SolidEntries f.entries
  last : f.last.Dense

section Values

variable {entries : List (String × Value)}

theorem Context.dense_toValue (context : Context) : context.toValue.Dense := by
  cases context with
  | node node => exact .node node
  | text content => exact .scalar content

theorem Context.dense_passedOver (context : Context) : context.passedOver.Dense := by
  cases context with
  | node _ => exact .null
  | text content => exact .scalar content

theorem Value.dense_list_iff {items : List Value} :
    (Value.list items).Dense ↔ items ≠ [] ∧ ∀ v ∈ items, v.Solid := by
  constructor
  · rintro ⟨⟩
    next hne hpresent hdense => exact ⟨hne, fun v hv => ⟨hpresent v hv, hdense v hv⟩⟩
  · rintro ⟨hne, hsolid⟩
    exact .list hne (fun v hv => (hsolid v hv).present) fun v hv => (hsolid v hv).dense

theorem Value.dense_map_iff : (Value.map entries).Dense ↔ entries ≠ [] ∧ SolidEntries entries := by
  constructor
  · rintro ⟨⟩
    next hne hpresent hdense => exact ⟨hne, fun e he => ⟨hpresent e he, hdense e he⟩⟩
  · rintro ⟨hne, hsolid⟩
    exact .map hne (fun e he => (hsolid e he).present) fun e he => (hsolid e he).dense

theorem SolidEntries.nil : SolidEntries [] := by simp [SolidEntries]

theorem SolidEntries.insertEntry (h : SolidEntries entries) (key : String) {v : Value}
    (hv : v.Solid) : SolidEntries (insertEntry key v entries) := by
  intro e he
  obtain rfl | he := mem_insertEntry he
  · exact hv
  · exact h e he

theorem SolidEntries.foldl_insertEntry (h : SolidEntries entries) {more : List (String × Value)}
    (hmore : SolidEntries more) :
    SolidEntries (more.foldl (fun acc e => Harvest.insertEntry e.1 e.2 acc) entries) :=
  List.foldlRecOn more _ h fun _ hacc e he => hacc.insertEntry e.1 (hmore e he)

theorem dense_listOf {values : List Value} (h : ∀ v ∈ values, v.Dense) : (listOf values).Dense := by
  unfold listOf
  split
  · exact .null
  · next hne =>
    refine Value.dense_list_iff.mpr ⟨hne, fun v hv => ?_⟩
    obtain ⟨hv, hpresent⟩ := List.mem_filter.mp hv
    exact ⟨by simpa using hpresent, h v hv⟩

theorem dense_mapOf (h : SolidEntries entries) : (mapOf entries).Dense := by
  unfold mapOf
  split
  · exact .null
  · next hne => exact Value.dense_map_iff.mpr ⟨hne, h⟩

namespace Found

variable {f : Found}

theorem dense_nothing : nothing.Dense := ⟨.nil, .null⟩

theorem Dense.keep (h : f.Dense) (key : String) {v : Value} (hv : v.Solid) :
    (f.keep key v).Dense := by
  unfold Found.keep
  split
  · exact h
  · exact ⟨h.entries.insertEntry key hv, h.last⟩

theorem Dense.result (h : f.Dense) (op : Operator) : (f.result op).Dense := by
  unfold Found.result
  split
  · exact dense_mapOf h.entries
  · exact h.last

end Found

end Values

def ReadSame (B : PropertyBag → PropertyBag → Prop) (attributes : SortedMap String) : Prop :=
  ∀ name bag other, B bag other →
    (attributes.get? name).bind bag.resolve? = (attributes.get? name).bind other.resolve?

/-- Rules of a kind, what ties the properties of two evaluations of them together, and the faults
that they end in. -/
structure Coupling (A : Rule → Prop) (B : PropertyBag → PropertyBag → Prop)
    (F : ParseFault → Prop) : Prop where
  child : ∀ r, A r → ∀ c ∈ r.children, A c
  readSame : ∀ r, A r → ReadSame B r.attributes
  set : ∀ r, A r → r.op = .property → ∀ c ∈ r.children, ∀ bag other name, B bag other →
    (c.attributes.get? "name").bind bag.resolve? = some name →
    ∀ later later' v, B later later' → v.Dense → B (later.set name v) (later'.set name v)
  blank : ∀ r, A r → r.op = .verify ∨ r.op = .iterate → ∀ content e,
    clean .html [] content = .error e → F ⟨r.op, e⟩

section Lockstep

variable {base : Option Url} {B : PropertyBag → PropertyBag → Prop} {F : ParseFault → Prop}
  {attributes : SortedMap String}

section Attributes

variable (h : ReadSame B attributes)
include h

theorem lockstep_attr? (name : String) :
    Lockstep B F (fun value => ∃ bag other : PropertyBag, B bag other ∧
      (attributes.get? name).bind bag.resolve? = value) (attr? attributes name) :=
  fun bag other hb => ⟨congrArg Except.ok (h name bag other hb), ⟨bag, other, hb, rfl⟩, hb⟩

theorem lockstep_query? : Lockstep B F (fun _ => True) (query? attributes) :=
  (lockstep_attr? h "xpath").bind fun _ _ => lockstep_pure trivial

theorem lockstep_selected? (node : NodeRef) :
    Lockstep B F (fun _ => True) (selected? attributes node) :=
  (lockstep_query? h).bind fun _ _ => lockstep_pure trivial

theorem lockstep_queried? (node : NodeRef) :
    Lockstep B F (fun _ => True) (queried? attributes node) :=
  (lockstep_query? h).bind fun _ _ => lockstep_pure trivial

theorem lockstep_regex? (name : String) :
    Lockstep B F (fun _ => True) (regex? attributes name) :=
  (lockstep_attr? h name).bind fun _ _ => lockstep_pure trivial

end Attributes

theorem lockstep_treeOf {op : Operator} {context : Context}
    (h : ∀ content e, clean .html [] content = .error e → F ⟨op, e⟩) :
    Lockstep B F (fun _ => True) (treeOf op context) := by
  unfold treeOf
  split
  · exact lockstep_pure trivial
  · next content =>
    split
    · exact lockstep_pure trivial
    · next e he => exact lockstep_throw (h content e he)

/-- Wherever a rule is evaluated, two evaluations keep step and yield a dense value. -/
def KeepsStep (base : Option Url) (B : PropertyBag → PropertyBag → Prop) (F : ParseFault → Prop)
    (r : Rule) : Prop :=
  ∀ context, Lockstep B F Value.Dense (evaluate base context r)

/-- A rule that keeps step, as do the rules in it; its neighbours may read its attributes. -/
structure Coupled (base : Option Url) (B : PropertyBag → PropertyBag → Prop)
    (F : ParseFault → Prop) (r : Rule) : Prop where
  readSame : ReadSame B r.attributes
  keepsStep : KeepsStep base B F r
  inner : ∀ c ∈ r.children, KeepsStep base B F c

theorem lockstep_evaluateFirst {context : Context} {otherwise : Value} {rules : List Rule}
    (hotherwise : otherwise.Dense) (h : ∀ r ∈ rules, Coupled base B F r) :
    Lockstep B F Value.Dense (evaluateFirst base context otherwise rules) := by
  cases rules with
  | nil => exact lockstep_pure hotherwise
  | cons r rest =>
      unfold evaluateFirst
      exact (h r List.mem_cons_self).keepsStep context

theorem lockstep_searchFor {op : Operator} {content : String} {found : Found}
    {children : List Rule} (hread : ReadSame B attributes) (hfound : found.Dense)
    (h : ∀ c ∈ children, KeepsStep base B F c) :
    Lockstep B F Found.Dense (searchFor base op content attributes found children) := by
  unfold searchFor
  refine (lockstep_regex? hread "pattern").bind fun e _ => ?_
  split
  · exact lockstep_pure hfound
  · next m _ =>
    -- The text that was found, or the value of the rule inside, is kept in the same way.
    cases children
    case' nil =>
      refine (lockstep_pure (Value.Dense.scalar (matchedText m))).bind fun v hv => ?_
    case' cons r rest => refine (h r List.mem_cons_self _).bind fun v hv => ?_
    all_goals
      dsimp only
      split
      · exact lockstep_pure hfound
      · next hpresent =>
        split
        · refine (lockstep_attr? hread "key").bind fun key _ => ?_
          split
          · exact lockstep_pure (hfound.keep _ ⟨Bool.eq_false_iff.mpr hpresent, hv⟩)
          · exact lockstep_pure hfound
        · exact lockstep_pure ⟨hfound.entries, hv⟩

theorem lockstep_searchAll {op : Operator} {content : String} {found : Found} {rules : List Rule}
    (hfound : found.Dense) (h : ∀ r ∈ rules, Coupled base B F r) :
    Lockstep B F Found.Dense (searchAll base op content found rules) := by
  induction rules generalizing found with
  | nil =>
      unfold searchAll
      exact lockstep_pure hfound
  | cons r rest ih =>
      obtain ⟨hr, hrest⟩ := List.forall_mem_cons.mp h
      obtain ⟨other, attributes, children⟩ := r
      unfold searchAll
      split
      · exact (lockstep_searchFor hr.readSame hfound hr.inner).bind fun found hfound =>
          ih hfound hrest
      · exact ih hfound hrest

theorem lockstep_chain {content : String} {rules : List Rule}
    (h : ∀ r ∈ rules, Coupled base B F r) :
    Lockstep B F Value.Dense (chain base content rules) := by
  cases rules with
  | nil =>
      unfold chain
      exact lockstep_pure (.scalar content)
  | cons r rest =>
      obtain ⟨hr, hrest⟩ := List.forall_mem_cons.mp h
      obtain ⟨op, attributes, children⟩ := r
      unfold chain
      split
      · refine (lockstep_searchFor hr.readSame Found.dense_nothing hr.inner).bind fun found hfound => ?_
        refine (lockstep_searchAll hfound hrest).bind fun found hfound => ?_
        exact lockstep_pure (hfound.result op)
      · exact hr.keepsStep _

theorem lockstep_expectationHolds {node : NodeRef} {children : List Rule}
    (hread : ReadSame B attributes) (h : ∀ c ∈ children, KeepsStep base B F c) :
    Lockstep B F (fun _ => True) (expectationHolds base node attributes children) := by
  unfold expectationHolds
  refine (lockstep_regex? hread "regex").bind fun e _ => ?_
  split
  · exact lockstep_pure trivial
  · split
    · exact lockstep_pure trivial
    · next r rest => exact (h r List.mem_cons_self _).bind fun _ _ => lockstep_pure trivial

theorem lockstep_checksHold {node : NodeRef} {rules : List Rule}
    (h : ∀ r ∈ rules, Coupled base B F r) :
    Lockstep B F (fun _ => True) (checksHold base node rules) := by
  induction rules with
  | nil =>
      unfold checksHold
      exact lockstep_pure trivial
  | cons r rest ih =>
      obtain ⟨hr, hrest⟩ := List.forall_mem_cons.mp h
      obtain ⟨op, attributes, children⟩ := r
      unfold checksHold
      split
      · refine (lockstep_expectationHolds hr.readSame hr.inner).bind fun holds _ => ?_
        split
        · exact ih hrest
        · exact lockstep_pure trivial
      · exact ih hrest

theorem lockstep_afterChecks {node : NodeRef} {rules : List Rule}
    (h : ∀ r ∈ rules, Coupled base B F r) :
    Lockstep B F Value.Dense (afterChecks base node rules) := by
  induction rules with
  | nil =>
      unfold afterChecks
      exact lockstep_pure (.node node)
  | cons r rest ih =>
      obtain ⟨hr, hrest⟩ := List.forall_mem_cons.mp h
      unfold afterChecks
      split
      · exact ih hrest
      · exact hr.keepsStep _

theorem lockstep_extractAll {context : Context} {entries : List (String × Value)}
    {rules : List Rule} (hentries : SolidEntries entries) (h : ∀ r ∈ rules, Coupled base B F r) :
    Lockstep B F (fun found => ∀ entries ∈ found, SolidEntries entries)
      (extractAll base context entries rules) := by
  induction rules generalizing entries with
  | nil =>
      unfold extractAll
      exact lockstep_pure (by simpa using hentries)
  | cons r rest ih =>
      obtain ⟨hr, hrest⟩ := List.forall_mem_cons.mp h
      unfold extractAll
      refine (lockstep_attr? hr.readSame "key").bind fun key _ => ?_
      split
      · refine (hr.keepsStep context).bind fun v hv => ih ?_ hrest
        split
        · exact hentries
        · next hpresent => exact hentries.insertEntry _ ⟨Bool.eq_false_iff.mpr hpresent, hv⟩
      · refine (hr.keepsStep context).bind fun v hv => ?_
        split
        · split
          · exact lockstep_pure (by simp)
          · exact ih hentries hrest
        · exact ih (hentries.foldl_insertEntry (Value.dense_map_iff.mp hv).2) hrest
        · exact ih hentries hrest

end Lockstep

section Coupling

variable {base : Option Url} {A : Rule → Prop} {B : PropertyBag → PropertyBag → Prop}
  {F : ParseFault → Prop} (hrules : Coupling A B F)
include hrules

theorem lockstep_propertyAll {context : Context} {result : Option Value} {rules : List Rule}
    {r : Rule} (hr : A r) (hop : r.op = .property) (hmem : ∀ c ∈ rules, c ∈ r.children)
    (hresult : ∀ v ∈ result, v.Dense) (h : ∀ c ∈ rules, Coupled base B F c) :
    Lockstep B F Value.Dense (propertyAll base context result rules) := by
  induction rules generalizing result with
  | nil =>
      unfold propertyAll
      cases result with
      | none => exact lockstep_pure context.dense_toValue
      | some v => exact lockstep_pure (hresult v rfl)
  | cons c rest ih =>
      obtain ⟨hc, hrest⟩ := List.forall_mem_cons.mp h
      obtain ⟨hchild, hmem⟩ := List.forall_mem_cons.mp hmem
      unfold propertyAll
      refine (lockstep_attr? hc.readSame "name").bind fun name hname => ?_
      split
      · next name =>
        obtain ⟨bag, other, hbag, hname⟩ := hname
        refine (hc.keepsStep context).bind fun v hv => ?_
        have hset : Lockstep B F (fun _ => True)
            (modify fun bag : PropertyBag => bag.set name v) :=
          lockstep_modify fun later later' hlater =>
            hrules.set r hr hop c hchild bag other name hbag hname later later' v hlater hv
        exact hset.bind fun _ _ => ih hmem hresult hrest
      · split
        · exact ih hmem hresult hrest
        · refine (hc.keepsStep context).bind fun v hv => ?_
          split
          · exact lockstep_pure .null
          · exact ih hmem (by simpa using hv) hrest

/-- One rule, if the rules in it are coupled. -/
theorem keepsStep_of_children {op : Operator} {attributes : SortedMap String}
    {children : List Rule} (hr : A (.mk op attributes children))
    (h : ∀ c ∈ children, Coupled base B F c) :
    KeepsStep base B F (.mk op attributes children) := by
  intro context
  have hread : ReadSame B attributes := hrules.readSame _ hr
  have hinner (c : Rule) (hc : c ∈ children) : KeepsStep base B F c := (h c hc).keepsStep
  have htree (op' : Operator) (hop : op' = op) (hreads : op = .verify ∨ op = .iterate) :
      Lockstep B F (fun _ => True) (treeOf op' context) := by
    subst hop
    exact lockstep_treeOf (hrules.blank _ hr hreads)
  cases op with
  | context =>
      simp only [evaluate]
      exact lockstep_evaluateFirst context.dense_toValue h
  | verify =>
      simp only [evaluate]
      refine (htree _ rfl (.inl rfl)).bind fun node _ => ?_
      refine (lockstep_checksHold h).bind fun holds _ => ?_
      split
      · exact lockstep_afterChecks h
      · exact lockstep_pure .null
  | expect =>
      simp only [evaluate]
      split
      · refine (lockstep_regex? hread "regex").bind fun e _ => ?_
        split
        · split
          · exact lockstep_pure (Context.dense_toValue _)
          · exact lockstep_pure .null
        · exact lockstep_pure .null
      · refine (lockstep_expectationHolds hread hinner).bind fun holds _ => ?_
        split
        · exact lockstep_pure (Context.dense_toValue _)
        · exact lockstep_pure .null
  | extract =>
      simp only [evaluate]
      split
      · exact lockstep_pure (Context.dense_passedOver _)
      · refine (lockstep_extractAll .nil h).bind fun found hfound => ?_
        split
        · exact lockstep_pure (dense_mapOf (hfound _ rfl))
        · exact lockstep_pure .null
  | property =>
      simp only [evaluate]
      split
      · exact lockstep_pure (Context.dense_passedOver _)
      · exact lockstep_propertyAll hrules hr rfl (fun _ hc => hc) (by simp) h
  | iterate =>
      simp only [evaluate]
      refine (htree _ rfl (.inr rfl)).bind fun node _ => ?_
      refine (lockstep_selected? hread node).bind fun items _ => ?_
      split
      · exact lockstep_pure .null
      · refine (lockstep_mapM fun item _ => lockstep_evaluateFirst (.node _) h).bind
          fun values hvalues => ?_
        exact lockstep_pure (dense_listOf hvalues)
  | collect =>
      cases children with
      | nil =>
          simp only [evaluate]
          exact lockstep_pure context.dense_passedOver
      | cons source rest =>
          obtain ⟨hsource, hrest⟩ := List.forall_mem_cons.mp h
          simp only [evaluate]
          refine (lockstep_attr? hread "separator").bind fun separator _ => ?_
          refine (hsource.keepsStep context).bind fun v _ => ?_
          split
          · exact lockstep_pure .null
          · exact lockstep_chain hrest
  | concat =>
      simp only [evaluate]
      split
      · exact lockstep_pure (Context.dense_passedOver _)
      · split
        · exact lockstep_chain h
        · refine (lockstep_selected? hread _).bind fun items _ => ?_
          split
          · exact lockstep_chain h
          · exact lockstep_pure .null
  | text =>
      simp only [evaluate]
      split
      · exact lockstep_pure (Context.dense_passedOver _)
      · refine (lockstep_queried? hread _).bind fun content _ => ?_
        split
        · exact lockstep_chain h
        · exact lockstep_pure .null
  | url =>
      simp only [evaluate]
      split
      · exact lockstep_pure (Context.dense_passedOver _)
      · refine (lockstep_queried? hread _).bind fun content _ => ?_
        split
        · exact lockstep_pure .null
        · split
          · exact lockstep_pure (.url _)
          · exact lockstep_pure .null
  | substitute =>
      simp only [evaluate]
      split
      · exact lockstep_pure (Context.dense_passedOver _)
      · refine (lockstep_regex? hread "pattern").bind fun e _ => ?_
        split
        · exact lockstep_pure .null
        · exact (lockstep_attr? hread "replacewith").bind fun template _ => lockstep_chain h
  | split =>
      simp only [evaluate]
      split
      · exact lockstep_pure (Context.dense_passedOver _)
      · refine (lockstep_attr? hread "delimiter").bind fun delimiters _ => ?_
        refine (lockstep_mapM fun token _ => lockstep_evaluateFirst (.scalar token) h).bind
          fun values hvalues => ?_
        exact lockstep_pure (dense_listOf hvalues)
  | find =>
      simp only [evaluate]
      split
      · exact lockstep_pure (Context.dense_passedOver _)
      · refine (lockstep_searchFor hread Found.dense_nothing hinner).bind fun found hfound => ?_
        exact lockstep_pure (hfound.result _)
  | findOne =>
      simp only [evaluate]
      split
      · exact lockstep_pure (Context.dense_passedOver _)
      · refine (lockstep_searchFor hread Found.dense_nothing hinner).bind fun found hfound => ?_
        exact lockstep_pure (hfound.result _)

/-- Rules of the kind are coupled. -/
theorem coupled_of_allowed (r : Rule) (hr : A r) : Coupled base B F r := by
  match r with
  | .mk op attributes children =>
      have hchildren (c : Rule) (hc : c ∈ children) : Coupled base B F c :=
        coupled_of_allowed c (hrules.child _ hr c hc)
      exact
        { readSame := hrules.readSame _ hr
          keepsStep := keepsStep_of_children hrules hr hchildren
          inner := fun c hc => (hchildren c hc).keepsStep }

theorem lockstep_evaluateSequence {context : Context} {result : Value} {rules : List Rule}
    (hresult : result.Dense) (h : ∀ r ∈ rules, A r) :
    Lockstep B F Value.Dense (evaluateSequence base context result rules) := by
  induction rules generalizing result with
  | nil => exact lockstep_pure hresult
  | cons r rest ih =>
      obtain ⟨hr, hrest⟩ := List.forall_mem_cons.mp h
      unfold evaluateSequence
      refine ((coupled_of_allowed hrules r hr).keepsStep context).bind fun v hv => ?_
      split
      · exact lockstep_pure .null
      · exact ih hv hrest

theorem lockstep_evaluateAll {context : Context} {rules : List Rule} (h : ∀ r ∈ rules, A r) :
    Lockstep B F Value.Dense (evaluateAll base context rules) := by
  cases rules with
  | nil => exact lockstep_pure context.dense_toValue
  | cons r rest =>
      simp only [evaluateAll]
      split
      · split
        · exact lockstep_pure (Context.dense_passedOver _)
        · refine (lockstep_searchAll Found.dense_nothing fun r hr =>
            coupled_of_allowed hrules r (h r hr)).bind fun found hfound => ?_
          exact lockstep_pure (hfound.result r.op)
      · exact lockstep_evaluateSequence hrules context.dense_toValue h

end Coupling

/-- Rules of a kind, what the properties keep under them, and the faults that they end in. -/
structure Discipline (A : Rule → Prop) (B : PropertyBag → Prop) (F : ParseFault → Prop) : Prop where
  child : ∀ r, A r → ∀ c ∈ r.children, A c
  set : ∀ r, A r → r.op = .property → ∀ c ∈ r.children, ∀ bag name, B bag →
    (c.attributes.get? "name").bind bag.resolve? = some name →
    ∀ later v, B later → v.Dense → B (later.set name v)
  blank : ∀ r, A r → r.op = .verify ∨ r.op = .iterate → ∀ content e,
    clean .html [] content = .error e → F ⟨r.op, e⟩

section Discipline

variable {base : Option Url} {A : Rule → Prop} {B : PropertyBag → Prop} {F : ParseFault → Prop}

abbrev Yields {α : Type} (B : PropertyBag → Prop) (F : ParseFault → Prop) (Q : α → Prop)
    (x : Evaluation α) : Prop :=
  Triple B x (fun a bag => Q a ∧ B bag) fun fault bag => F fault ∧ B bag

def Good (base : Option Url) (B : PropertyBag → Prop) (F : ParseFault → Prop) (r : Rule) : Prop :=
  ∀ context, Yields B F Value.Dense (evaluate base context r)

theorem Discipline.coupling (h : Discipline A B F) :
    Coupling A (fun bag other => bag = other ∧ B bag) F where
  child := h.child
  readSame := by
    rintro r hr name bag other ⟨rfl, -⟩
    rfl
  set := by
    rintro r hr hop c hc bag other name ⟨rfl, hbag⟩ hname later later' v ⟨rfl, hlater⟩ hv
    exact ⟨rfl, h.set r hr hop c hc bag name hbag hname later v hlater hv⟩
  blank := h.blank

variable (hrules : Discipline A B F)
include hrules

/-- Rules of the kind are good, and so are the rules in them. -/
theorem good_of_allowed (r : Rule) (hr : A r) :
    Good base B F r ∧ ∀ c ∈ r.children, Good base B F c :=
  have hcoupled : Coupled base (fun bag other => bag = other ∧ B bag) F r :=
    coupled_of_allowed hrules.coupling r hr
  ⟨fun context => (hcoupled.keepsStep context).triple,
    fun c hc context => (hcoupled.inner c hc context).triple⟩

theorem yields_evaluateAll {context : Context} {rules : List Rule} (h : ∀ r ∈ rules, A r) :
    Yields B F Value.Dense (evaluateAll base context rules) :=
  (lockstep_evaluateAll hrules.coupling h).triple

end Discipline

end Harvest.Rule
