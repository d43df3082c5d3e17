import Harvest.Proofs.XPath.Completeness

/-!
The functions that an expression calls.

The parser asks a list of names whether a function may be called, and the evaluation looks the name
up in a table of its own. Both hold the same names. The grammar has one production with a function
name in it, and it asks for a name on the list; so whatever is read, and however deep a call is in
it, the table has the function.
-/

namespace Harvest.XPath

/-- The list of names that may be called are the names in the table. -/
theorem mem_functionNames_iff {name : String} :
    name ∈ functionNames ↔ ∃ fn, Function.ofName? name = some fn := by
  have hnames : functionNames = Function.table.map Prod.fst := rfl
  rw [← Option.isSome_iff_exists, Function.ofName?, List.lookup_isSome_iff, hnames, List.mem_map]
  refine exists_congr fun entry => and_congr_right fun _ => ?_
  rw [beq_iff_eq, eq_comm]

mutual

def Expr.calls : Expr → List String
  | .literal _ => []
  | .number _ => []
  | .negate operand => operand.calls
  | .binary _ left right => left.calls ++ right.calls
  | .union left right => left.calls ++ right.calls
  | .function name args => name :: exprsCalls args
  | .path _ steps => stepsCalls steps
  | .filter primary predicates steps =>
    primary.calls ++ (exprsCalls predicates ++ stepsCalls steps)

def exprsCalls : List Expr → List String
  | [] => []
  | e :: es => e.calls ++ exprsCalls es

def stepsCalls : List Step → List String
  | [] => []
  | .mk _ _ predicates :: rest => exprsCalls predicates ++ stepsCalls rest

end

namespace Grammar

mutual

theorem OnLevel.calls_subset {l : Level} {us : List Token} {e : Expr} (h : OnLevel l us e) :
    e.calls ⊆ functionNames := by
  match h with
  | .operand h => exact Operand.calls_subset h
  | .binary ha _ hb =>
      exact List.append_subset.mpr ⟨OnLevel.calls_subset ha, Operand.calls_subset hb⟩
  termination_by structural h

theorem Operand.calls_subset {l : Level} {us : List Token} {e : Expr} (h : Operand l us e) :
    e.calls ⊆ functionNames := by
  match h with
  | .tighter _ h => exact OnLevel.calls_subset h
  | .unary h => exact Unary.calls_subset h
  termination_by structural h

theorem Unary.calls_subset {us : List Token} {e : Expr} (h : Unary us e) :
    e.calls ⊆ functionNames := by
  match h with
  | .union h => exact Union.calls_subset h
  | .minus h =>
      have hoperand := Unary.calls_subset h
      exact hoperand
  termination_by structural h

theorem Union.calls_subset {us : List Token} {e : Expr} (h : Union us e) :
    e.calls ⊆ functionNames := by
  match h with
  | .path h => exact Path.calls_subset h
  | .union ha hb =>
      exact List.append_subset.mpr ⟨Union.calls_subset ha, Path.calls_subset hb⟩
  termination_by structural h

theorem Path.calls_subset {us : List Token} {e : Expr} (h : Path us e) :
    e.calls ⊆ functionNames := by
  match h with
  | .location h => exact Location.calls_subset h
  | .primary h => exact (Filter.calls_subset h).1
  | .narrowed h =>
      obtain ⟨hprimary, hpredicates⟩ := Filter.calls_subset h
      exact List.append_subset.mpr ⟨hprimary, List.append_subset.mpr
        ⟨hpredicates, List.nil_subset _⟩⟩
  | .continued h hs =>
      obtain ⟨hprimary, hpredicates⟩ := Filter.calls_subset h
      exact List.append_subset.mpr ⟨hprimary, List.append_subset.mpr
        ⟨hpredicates, Continuation.calls_subset hs⟩⟩
  termination_by structural h

theorem Filter.calls_subset {us : List Token} {e : Expr} {ps : List Expr} (h : Filter us e ps) :
    e.calls ⊆ functionNames ∧ exprsCalls ps ⊆ functionNames := by
  match h with
  | .mk h hp => exact ⟨Primary.calls_subset h, Predicates.calls_subset hp⟩
  termination_by structural h

/-- The one production with a function name in it. -/
theorem Primary.calls_subset {us : List Token} {e : Expr} (h : Primary us e) :
    e.calls ⊆ functionNames := by
  match h with
  | .group h => exact OnLevel.calls_subset h
  | .literal _ => exact List.nil_subset _
  | .number _ => exact List.nil_subset _
  | .call hname h => exact List.cons_subset.mpr ⟨hname, Arguments.calls_subset h⟩
  termination_by structural h

theorem Arguments.calls_subset {us : List Token} {es : List Expr} (h : Arguments us es) :
    exprsCalls es ⊆ functionNames := by
  match h with
  | .none => exact List.nil_subset _
  | .some h => exact ArgumentList.calls_subset h
  termination_by structural h

theorem ArgumentList.calls_subset {us : List Token} {es : List Expr} (h : ArgumentList us es) :
    exprsCalls es ⊆ functionNames := by
  match h with
  | .last h =>
      exact List.append_subset.mpr ⟨OnLevel.calls_subset h, List.nil_subset _⟩
  | .cons h hs =>
      exact List.append_subset.mpr ⟨OnLevel.calls_subset h, ArgumentList.calls_subset hs⟩
  termination_by structural h

theorem Predicates.calls_subset {us : List Token} {es : List Expr} (h : Predicates us es) :
    exprsCalls es ⊆ functionNames := by
  match h with
  | .nil => exact List.nil_subset _
  | .cons h hs =>
      exact List.append_subset.mpr ⟨OnLevel.calls_subset h, Predicates.calls_subset hs⟩
  termination_by structural h

theorem Location.calls_subset {us : List Token} {e : Expr} (h : Location us e) :
    e.calls ⊆ functionNames := by
  match h with
  | .root => exact List.nil_subset _
  | .absolute h => exact Relative.calls_subset h
  | .anywhere h =>
      have hsteps := Relative.calls_subset h
      exact hsteps
  | .relative h => exact Relative.calls_subset h
  termination_by structural h

theorem Relative.calls_subset {us : List Token} {ss : List Step} (h : Relative us ss) :
    stepsCalls ss ⊆ functionNames := by
  match h with
  | .last h => exact StepPart.calls_subset h (List.nil_subset _)
  | .cons h hs => exact StepPart.calls_subset h (Continuation.calls_subset hs)
  termination_by structural h

/-- The step that a double slash stands for calls nothing. -/
theorem Continuation.calls_subset {us : List Token} {ss : List Step} (h : Continuation us ss) :
    stepsCalls ss ⊆ functionNames := by
  match h with
  | .slash h => exact Relative.calls_subset h
  | .doubleSlash h =>
      have hsteps := Relative.calls_subset h
      exact hsteps
  termination_by structural h

theorem StepPart.calls_subset {us : List Token} {s : Step} (h : StepPart us s) {rest : List Step}
    (hrest : stepsCalls rest ⊆ functionNames) : stepsCalls (s :: rest) ⊆ functionNames := by
  match h with
  | .dot => exact hrest
  | .dotDot => exact hrest
  | .full _ _ hp => exact List.append_subset.mpr ⟨Predicates.calls_subset hp, hrest⟩
  termination_by structural h

end

end Grammar

/-- Whatever is read calls functions on the list only. -/
theorem calls_subset_of_parse {source : String} {e : Expr} (h : parse source = .ok e) :
    e.calls ⊆ functionNames := by
  unfold parse at h
  split at h
  · cases h
  · next ts _ =>
    split at h
    · cases h
    · next e' hparse =>
      cases h
      have hread := Grammar.parseTokens_eq_ok_iff.mp hparse
      exact (Grammar.reads_all_iff.mp hread).calls_subset

end Harvest.XPath
