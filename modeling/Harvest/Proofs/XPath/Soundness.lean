import Harvest.Proofs.XPath.Grammar
import Harvest.Proofs.XPath.ParserRules

/-!
What the parser reads is derivable: each function takes a prefix of its tokens
off, and the grammar derives from that prefix the tree that the function returns.

The functions that continue something already read, the operators after an
operand and the unions after a path, are sound in another sense: whatever derives
the part before, the two together derive the result.
-/

namespace Harvest.XPath.Grammar

def Takes (ts rest : List Placed) (derives : List Token → Prop) : Prop :=
  ∃ used, ts = used ++ rest ∧ derives (tokens used)

theorem Takes.imp {ts rest : List Placed} {d d' : List Token → Prop} (h : Takes ts rest d)
    (hd : ∀ us, d us → d' us) : Takes ts rest d' := by
  obtain ⟨used, hts, hused⟩ := h
  exact ⟨used, hts, hd _ hused⟩

theorem Takes.append {ts r rest : List Placed} {d d' d'' : List Token → Prop}
    (h : Takes ts r d) (h' : Takes r rest d') (hd : ∀ us vs, d us → d' vs → d'' (us ++ vs)) :
    Takes ts rest d'' := by
  obtain ⟨used, rfl, hused⟩ := h
  obtain ⟨used', rfl, hused'⟩ := h'
  refine ⟨used ++ used', (List.append_assoc ..).symm, ?_⟩
  rw [tokens_append]
  exact hd _ _ hused hused'

theorem Takes.cons {t : Placed} {ts rest : List Placed} {d d' : List Token → Prop}
    (h : Takes ts rest d) (hd : ∀ us, d us → d' (t.token :: us)) :
    Takes (t :: ts) rest d' := by
  obtain ⟨used, rfl, hused⟩ := h
  exact ⟨t :: used, rfl, hd _ hused⟩

theorem axisPart_of_reads {last last' : Nat} {ts rest : List Placed} {axis : Axis}
    (h : ReadsAxis last ts axis last' rest) : Takes ts rest (AxisPart · axis) := by
  obtain ⟨hle, h⟩ := h
  rw [parseAxis.eq_def] at h
  split at h
  · cases h
    exact ⟨[⟨.at, last'⟩], rfl, .sign⟩
  · next name o us =>
    split at h
    · next axis' hn =>
      cases h
      exact ⟨[⟨.axisName name, last'⟩], rfl, .named (ofName?_eq_some_iff.mp hn)⟩
    · cases h
  · cases h
    exact ⟨[], rfl, .missing⟩

theorem test_of_reads {last : Nat} {ts rest : List Placed} {test : NodeTest}
    (h : Reads (parseTest last ts) test rest) : Takes ts rest (Test · test) := by
  have hread := h
  rw [parseTest.eq_def] at hread
  split at hread
  · next o us =>
    obtain ⟨rfl, rfl⟩ := reads_ok.mp hread
    exact ⟨[⟨.star, o⟩], rfl, .any⟩
  · next text o us =>
    obtain ⟨rfl, rfl⟩ := reads_ok.mp hread
    exact ⟨[⟨.name text, o⟩], rfl, test_name_iff.mpr rfl⟩
  · next kind o us =>
    obtain ⟨rfl, ⟨o₁, o₂, rfl⟩ | ⟨o₁, content, o', o₂, rfl⟩⟩ := reads_parseTest_nodeType.mp h
    · exact ⟨[⟨.nodeType kind, o⟩, ⟨.openParen, o₁⟩, ⟨.closeParen, o₂⟩], rfl,
        .type (typeTest_iff.mpr rfl) .none⟩
    · exact ⟨[⟨.nodeType kind, o⟩, ⟨.openParen, o₁⟩, ⟨.literal content, o'⟩, ⟨.closeParen, o₂⟩],
        rfl, .type (typeTest_iff.mpr rfl) (.literal content)⟩
  · exact absurd hread not_reads_error
  · exact absurd hread not_reads_error

mutual

theorem onLevel_of_reads {l : Level} {ts rest : List Placed} {e : Expr}
    (h : Reads (parseLevel l ts) e rest) : Takes ts rest (OnLevel l · e) := by
  obtain ⟨left, r, hleft, hops⟩ := reads_parseLevel.mp h
  have hlt := hleft.shorter
  refine (operand_of_reads hleft).append (operators_of_reads hops) ?_
  intro us vs hus hvs
  exact hvs us (.operand hus)
  termination_by (ts.length, 21 + 2 * l.depth)

theorem operand_of_reads {l : Level} {ts rest : List Placed} {e : Expr}
    (h : ReadsOperand l ts e rest) : Takes ts rest (Operand l · e) := by
  unfold ReadsOperand at h
  split at h
  · next m hm =>
    have hdepth := Level.depth_next hm
    exact (onLevel_of_reads h).imp fun us => .tighter (next?_eq_some_iff.mp hm)
  · next hm =>
    obtain rfl := eq_multiplicative_of_next? hm
    exact (unary_of_reads h).imp fun us => .unary
  termination_by (ts.length, 20 + 2 * l.depth)

theorem operators_of_reads {l : Level} {left e : Expr} {ts rest : List Placed}
    (h : Reads (parseOperators l left ts) e rest) :
    Takes ts rest fun us => ∀ before, OnLevel l before left → OnLevel l (before ++ us) e := by
  obtain ⟨t, us, op, right, r, rfl, hop, hright, hops⟩ | ⟨-, rfl, rfl⟩ :=
    reads_parseOperators.mp h
  · have hlt := hright.shorter
    obtain ⟨used, hus, hused⟩ := operand_of_reads hright
    obtain ⟨used', hr, hused'⟩ := operators_of_reads hops
    refine ⟨t :: used ++ used', by simp [hus, hr], fun before hbefore => ?_⟩
    have := hused' _ (.binary hbefore (operator?_eq_some_iff.mp hop) hused)
    simpa using this
  · exact ⟨[], rfl, fun before hbefore => by simpa using hbefore⟩
  termination_by (ts.length, 0)

theorem unary_of_reads {ts rest : List Placed} {e : Expr} (h : Reads (parseUnary ts) e rest) :
    Takes ts rest (Unary · e) := by
  obtain ⟨o, us, operand, rfl, hoperand, rfl⟩ | ⟨-, left, r, hleft, hunion⟩ :=
    reads_parseUnary.mp h
  · exact (unary_of_reads hoperand).cons fun us => .minus
  · have hlt := hleft.left
    refine (path_of_reads hleft).append (union_of_reads hunion) ?_
    intro us vs hus hvs
    exact .union (hvs us (.path hus))
  termination_by (ts.length, 12)

theorem union_of_reads {left e : Expr} {ts rest : List Placed}
    (h : Reads (parseUnion left ts) e rest) :
    Takes ts rest fun us => ∀ before, Union before left → Union (before ++ us) e := by
  obtain ⟨o, us, right, r, rfl, hright, hunion⟩ | ⟨-, rfl, rfl⟩ := reads_parseUnion.mp h
  · have hlt := hright.left
    obtain ⟨used, hus, hused⟩ := path_of_reads hright
    obtain ⟨used', hr, hused'⟩ := union_of_reads hunion
    refine ⟨⟨.pipe, o⟩ :: used ++ used', by simp [hus, hr], fun before hbefore => ?_⟩
    have := hused' _ (.union hbefore hused)
    simpa using this
  · exact ⟨[], rfl, fun before hbefore => by simpa using hbefore⟩
  termination_by (ts.length, 0)

theorem path_of_reads {ts rest : List Placed} {e : Expr} (h : Reads (parsePath ts) e rest) :
    Takes ts rest (Path · e) := by
  rw [reads_parsePath] at h
  split at h
  · exact filter_of_reads h
  · exact (location_of_reads h).imp fun us => .location
  termination_by (ts.length, 10)

theorem filter_of_reads {ts rest : List Placed} {e : Expr} (h : Reads (parseFilter ts) e rest) :
    Takes ts rest (Path · e) := by
  obtain ⟨primary, r₁, predicates, r₂, steps, hprimary, hpredicates, hsteps, rfl⟩ :=
    reads_parseFilter.mp h
  have hlt := hprimary.left
  have hle := hpredicates.left
  have hfilter : Takes ts r₂ (Filter · primary predicates) :=
    (primary_of_reads hprimary).append (predicates_of_reads hpredicates) fun us vs => .mk
  refine hfilter.append (steps_of_reads hsteps) ?_
  rintro us vs hus (⟨rfl, rfl⟩ | hvs)
  · rw [List.append_nil]
    cases predicates with
    | nil => exact .primary hus
    | cons p ps => exact .narrowed hus
  · have hne : steps.isEmpty = false := by
      cases hvs with
      | slash h => cases h <;> rfl
      | doubleSlash h => rfl
    rw [hne, Bool.and_false]
    exact .continued hus hvs
  termination_by (ts.length, 8)

theorem primary_of_reads {ts rest : List Placed} {e : Expr}
    (h : Reads (parsePrimary ts) e rest) : Takes ts rest (Primary · e) := by
  obtain ⟨content, o, rfl, rfl⟩ | ⟨value, o, rfl, rfl⟩ | ⟨o, o', us, rfl, hinner⟩ |
    ⟨name, o, o', us, args, rfl, hname, hargs, rfl⟩ := reads_parsePrimary.mp h
  · exact ⟨[⟨.literal content, o⟩], rfl, .literal content⟩
  · exact ⟨[⟨.number value, o⟩], rfl, .number value⟩
  · obtain ⟨used, hus, hused⟩ := onLevel_of_reads hinner
    exact ⟨⟨.openParen, o⟩ :: used ++ [⟨.closeParen, o'⟩], by simp [hus],
      by simpa using Primary.group hused⟩
  · obtain ⟨used, o₂, hus, hused⟩ := arguments_of_reads hargs
    exact ⟨⟨.functionName name, o⟩ :: ⟨.openParen, o'⟩ :: used ++ [⟨.closeParen, o₂⟩],
      by simp [hus], by simpa using Primary.call hname hused⟩
  termination_by (ts.length, 6)

theorem arguments_of_reads {ts rest : List Placed} {es : List Expr}
    (h : Reads (parseArgs ts) es rest) :
    ∃ used o, ts = used ++ ⟨.closeParen, o⟩ :: rest ∧ Arguments (tokens used) es := by
  obtain ⟨o, rfl, rfl⟩ | ⟨-, hlist⟩ := reads_parseArgs.mp h
  · exact ⟨[], o, rfl, .none⟩
  · obtain ⟨used, o, hts, hused⟩ := argumentList_of_reads hlist
    exact ⟨used, o, hts, .some hused⟩
  termination_by (ts.length, 33)

theorem argumentList_of_reads {ts rest : List Placed} {es : List Expr}
    (h : Reads (parseArgList ts) es rest) :
    ∃ used o, ts = used ++ ⟨.closeParen, o⟩ :: rest ∧ ArgumentList (tokens used) es := by
  obtain ⟨arg, r, harg, hr⟩ := reads_parseArgList.mp h
  have hlt := harg.left
  obtain ⟨used, hts, hused⟩ := onLevel_of_reads harg
  obtain ⟨o, rfl, rfl⟩ | ⟨o, us, args, rfl, hargs, rfl⟩ := hr
  · exact ⟨used, o, hts, .last hused⟩
  · have hlt' : us.length < ts.length := by simp only [List.length_cons] at hlt; omega
    obtain ⟨used', o', hus, hused'⟩ := argumentList_of_reads hargs
    exact ⟨used ++ ⟨.comma, o⟩ :: used', o', by simp [hts, hus],
      by simpa using ArgumentList.cons hused hused'⟩
  termination_by (ts.length, 32)
  decreasing_by
    · exact Prod.Lex.right _ (by decide)
    · exact Prod.Lex.left _ _ hlt'

theorem predicates_of_reads {ts rest : List Placed} {es : List Expr}
    (h : Reads (parsePredicates ts) es rest) : Takes ts rest (Predicates · es) := by
  obtain ⟨o, o', us, predicate, r, predicates, rfl, hpredicate, hpredicates, rfl⟩ |
    ⟨-, rfl, rfl⟩ := reads_parsePredicates.mp h
  · have hlt := hpredicate.left
    obtain ⟨used, hus, hused⟩ := onLevel_of_reads hpredicate
    obtain ⟨used', hr, hused'⟩ := predicates_of_reads hpredicates
    exact ⟨⟨.openBracket, o⟩ :: used ++ ⟨.closeBracket, o'⟩ :: used', by simp [hus, hr],
      by simpa using Predicates.cons hused hused'⟩
  · exact ⟨[], rfl, .nil⟩
  termination_by (ts.length, 0)

theorem location_of_reads {ts rest : List Placed} {e : Expr}
    (h : Reads (parseLocation ts) e rest) : Takes ts rest (Location · e) := by
  obtain ⟨o, us, rfl, hif⟩ | ⟨o, us, steps, rfl, hsteps, rfl⟩ | ⟨-, steps, hsteps, rfl⟩ :=
    reads_parseLocation.mp h
  · split at hif
    · obtain ⟨steps, hsteps, rfl⟩ := hif
      exact (relative_of_reads hsteps).cons fun us => .absolute
    · obtain ⟨rfl, rfl⟩ := hif
      exact ⟨[⟨.slash, o⟩], rfl, .root⟩
  · exact (relative_of_reads hsteps).cons fun us => .anywhere
  · exact (relative_of_reads hsteps).imp fun us => .relative
  termination_by (ts.length, 8)

theorem relative_of_reads {last : Nat} {ts rest : List Placed} {steps : List Step}
    (h : ReadsRelative last ts steps rest) : Takes ts rest (Relative · steps) := by
  obtain ⟨step, r, more, hstep, hmore, rfl⟩ := h
  have hlt := hstep.left
  refine (step_of_reads hstep).append (steps_of_reads hmore) ?_
  rintro us vs hus (⟨rfl, rfl⟩ | hvs)
  · rw [List.append_nil]
    exact .last hus
  · exact .cons hus hvs
  termination_by (ts.length, 7)

theorem steps_of_reads {ts rest : List Placed} {steps : List Step}
    (h : Reads (parseSteps ts) steps rest) :
    Takes ts rest fun us => us = [] ∧ steps = [] ∨ Continuation us steps := by
  obtain ⟨o, us, rfl, hsteps⟩ | ⟨o, us, more, rfl, hsteps, rfl⟩ | ⟨-, -, rfl, rfl⟩ :=
    reads_parseSteps.mp h
  · exact (relative_of_reads hsteps).cons fun us hus => .inr (.slash hus)
  · exact (relative_of_reads hsteps).cons fun us hus => .inr (.doubleSlash hus)
  · exact ⟨[], rfl, .inl ⟨rfl, rfl⟩⟩
  termination_by (ts.length, 0)

theorem step_of_reads {last : Nat} {ts rest : List Placed} {step : Step}
    (h : Reads (parseStep last ts) step rest) : Takes ts rest (StepPart · step) := by
  obtain ⟨o, rfl, rfl⟩ | ⟨o, rfl, rfl⟩ | ⟨-, -, axis, last', r₁, test, r₂, predicates, haxis,
    htest, hpredicates, rfl⟩ := reads_parseStep.mp h
  · exact ⟨[⟨.dot, o⟩], rfl, .dot⟩
  · exact ⟨[⟨.dotDot, o⟩], rfl, .dotDot⟩
  · have hle := haxis.1
    have hlt := htest.left
    obtain ⟨us, rfl, hus⟩ := axisPart_of_reads haxis
    obtain ⟨vs, rfl, hvs⟩ := test_of_reads htest
    obtain ⟨ws, rfl, hws⟩ := predicates_of_reads hpredicates
    exact ⟨us ++ vs ++ ws, by simp, by simpa using StepPart.full hus hvs hws⟩
  termination_by (ts.length, 6)

end

end Harvest.XPath.Grammar
