import Harvest.Proofs.XPath.Follow
import Harvest.Proofs.XPath.Soundness
import Mathlib

/-!
What the grammar derives, the parser reads.

What the parser must be protected from is a token after a derivable part that it
would take for a continuation of that part. Every construct is read in front of
tokens that it stops at, and the bound that it needs grows along the levels of
the grammar.
-/

namespace Harvest.XPath.Grammar

theorem AxisPart.reads {us : List Token} {axis : Axis} (h : AxisPart us axis)
    {ps rest : List Placed} (hps : tokens ps = us) (hrest : BeginsWith beginsTest (tokens rest))
    (last : Nat) : ∃ last', ReadsAxis last (ps ++ rest) axis last' rest := by
  cases h with
  | missing =>
      obtain rfl := tokens_eq_nil hps
      obtain ⟨t, us, hus, ht⟩ := hrest
      obtain ⟨o, qs, rfl, -⟩ := tokens_eq_cons hus
      refine ⟨last, Nat.le_refl _, ?_⟩
      cases t <;> first | rfl | cases ht
  | sign =>
      obtain ⟨o, rfl⟩ := tokens_eq_singleton hps
      exact ⟨o, by simp, rfl⟩
  | @named name axis h =>
      obtain ⟨o, rfl⟩ := tokens_eq_singleton hps
      refine ⟨o, by simp, ?_⟩
      simp only [List.singleton_append, parseAxis, ofName?_eq_some_iff.mpr h]

theorem Test.reads {us : List Token} {test : NodeTest} (h : Test us test) {ps : List Placed}
    (hps : tokens ps = us) (last : Nat) (rest : List Placed) :
    Reads (parseTest last (ps ++ rest)) test rest := by
  cases h with
  | any =>
      obtain ⟨o, rfl⟩ := tokens_eq_singleton hps
      exact ⟨by simp, rfl⟩
  | qualifier before =>
      obtain ⟨o, rfl⟩ := tokens_eq_singleton hps
      refine ⟨by simp, ?_⟩
      rw [← ofName_qualifier]
      rfl
  | name h =>
      obtain ⟨o, rfl⟩ := tokens_eq_singleton hps
      refine ⟨by simp, ?_⟩
      rw [← ofName_name h]
      rfl
  | type h ha =>
      obtain ⟨o, qs, rfl, hqs⟩ := tokens_eq_cons hps
      obtain ⟨o₁, rs, o₂, rfl, hrs⟩ := tokens_eq_enclosed hqs
      refine reads_parseTest_nodeType.mpr ⟨typeTest_iff.mp h, ?_⟩
      cases ha with
      | none =>
          obtain rfl := tokens_eq_nil hrs
          exact .inl ⟨o₁, o₂, rfl⟩
      | literal content =>
          obtain ⟨o', rfl⟩ := tokens_eq_singleton hrs
          exact .inr ⟨o₁, content, o', o₂, rfl⟩

mutual

/-- Reading a derivable level comes to its last operand; what follows is up to
the operators after it. -/
theorem OnLevel.reads {l : Level} {us : List Token} {e : Expr} (h : OnLevel l us e)
    {ps rest : List Placed} (hps : tokens ps = us) (hs : StopsAt (3 + l.depth) rest)
    {e' : Expr} {rest' : List Placed} (hrest : Reads (parseOperators l e rest) e' rest') :
    Reads (parseLevel l (ps ++ rest)) e' rest' := by
  match h with
  | .operand h => exact reads_parseLevel.mpr ⟨e, rest, Operand.reads h hps hs, hrest⟩
  | @OnLevel.binary _ _ _ t op a b ha ht hb =>
      obtain ⟨qs, rs, rfl, hqs, hrs⟩ := tokens_eq_append hps
      obtain ⟨o, ws, rfl, hws⟩ := tokens_eq_cons hrs
      rw [List.append_assoc]
      refine OnLevel.reads ha hqs ?_ ?_
      · rw [List.cons_append, stopsAt_cons, reach_operator ht]
        omega
      · exact reads_parseOperators.mpr (.inl ⟨⟨t, o⟩, ws ++ rest, op, b, rest, rfl,
          operator?_eq_some_iff.mpr ht, Operand.reads hb hws hs, hrest⟩)
  termination_by structural h

theorem Operand.reads {l : Level} {us : List Token} {e : Expr} (h : Operand l us e)
    {ps rest : List Placed} (hps : tokens ps = us) (hs : StopsAt (3 + l.depth) rest) :
    ReadsOperand l (ps ++ rest) e rest := by
  match h with
  | @Operand.tighter _ m _ _ hl h =>
      have hdepth := depth_precedes hl
      unfold ReadsOperand
      rw [next?_of_precedes hl]
      refine OnLevel.reads h hps (hs.mono (by omega)) ?_
      exact reads_parseOperators_nil (hs.mono (by omega)) e
  | .unary h => exact Unary.reads h hps (hs.mono (by simp))
  termination_by structural h

theorem Unary.reads {us : List Token} {e : Expr} (h : Unary us e) {ps rest : List Placed}
    (hps : tokens ps = us) (hs : StopsAt 3 rest) :
    Reads (parseUnary (ps ++ rest)) e rest := by
  match h with
  | .union h =>
      exact Union.reads h hps (hs.mono (by omega)) (reads_parseUnion_nil hs e)
  | .minus h =>
      obtain ⟨o, qs, rfl, hqs⟩ := tokens_eq_cons hps
      exact reads_parseUnary.mpr (.inl ⟨o, qs ++ rest, _, rfl, Unary.reads h hqs hs, rfl⟩)
  termination_by structural h

/-- Reading a derivable union comes to its last path. -/
theorem Union.reads {us : List Token} {e : Expr} (h : Union us e) {ps rest : List Placed}
    (hps : tokens ps = us) (hs : StopsAt 2 rest) {e' : Expr} {rest' : List Placed}
    (hrest : Reads (parseUnion e rest) e' rest') :
    Reads (parseUnary (ps ++ rest)) e' rest' := by
  match h with
  | .path h =>
      exact reads_parseUnary.mpr (.inr
        ⟨h.begins.head_append_ne hps rest rfl, e, rest, Path.reads h hps hs, hrest⟩)
  | .union ha hb =>
      obtain ⟨qs, rs, rfl, hqs, hrs⟩ := tokens_eq_append hps
      obtain ⟨o, ws, rfl, hws⟩ := tokens_eq_cons hrs
      rw [List.append_assoc]
      refine Union.reads ha hqs ?_ ?_
      · simp [reach]
      · exact reads_parseUnion.mpr (.inl
          ⟨o, ws ++ rest, _, rest, rfl, Path.reads hb hws hs, hrest⟩)
  termination_by structural h

theorem Path.reads {us : List Token} {e : Expr} (h : Path us e) {ps rest : List Placed}
    (hps : tokens ps = us) (hs : StopsAt 2 rest) : Reads (parsePath (ps ++ rest)) e rest := by
  rw [reads_parsePath]
  match h with
  | .location h =>
      rw [h.begins.any_append hps rest (b := false) (by simp)]
      exact Location.reads h hps hs
  | .primary h =>
      rw [h.begins.any_append hps rest fun _ ht => ht, if_pos rfl]
      obtain ⟨r, hprimary, hpredicates⟩ := Filter.reads h hps (hs.mono (by omega))
      exact reads_parseFilter.mpr ⟨_, r, _, rest, [], hprimary, hpredicates,
        reads_parseSteps_nil (hs.mono (by omega)), rfl⟩
  | .narrowed h =>
      rw [h.begins.any_append hps rest fun _ ht => ht, if_pos rfl]
      obtain ⟨r, hprimary, hpredicates⟩ := Filter.reads h hps (hs.mono (by omega))
      exact reads_parseFilter.mpr ⟨_, r, _, rest, [], hprimary, hpredicates,
        reads_parseSteps_nil (hs.mono (by omega)), rfl⟩
  | .continued h hc =>
      obtain ⟨qs, rs, rfl, hqs, hrs⟩ := tokens_eq_append hps
      rw [List.append_assoc, h.begins.any_append hqs (rs ++ rest) fun _ ht => ht, if_pos rfl]
      obtain ⟨r, hprimary, hpredicates⟩ := Filter.reads h hqs (hc.stopsAt hrs rest)
      refine reads_parseFilter.mpr ⟨_, r, _, rs ++ rest, _, hprimary, hpredicates,
        Continuation.reads hc hrs (hs.mono (by omega)), ?_⟩
      rw [hc.isEmpty, Bool.and_false]
      rfl
  termination_by structural h

theorem Filter.reads {us : List Token} {e : Expr} {es : List Expr} (h : Filter us e es)
    {ps rest : List Placed} (hps : tokens ps = us) (hs : StopsAt 0 rest) :
    ∃ r, Reads (parsePrimary (ps ++ rest)) e r ∧ Reads (parsePredicates r) es rest := by
  match h with
  | .mk h hp =>
      obtain ⟨qs, rs, rfl, hqs, hrs⟩ := tokens_eq_append hps
      rw [List.append_assoc]
      exact ⟨rs ++ rest, Primary.reads h hqs _, Predicates.reads hp hrs hs⟩
  termination_by structural h

theorem Primary.reads {us : List Token} {e : Expr} (h : Primary us e) {ps : List Placed}
    (hps : tokens ps = us) (rest : List Placed) :
    Reads (parsePrimary (ps ++ rest)) e rest := by
  match h with
  | .group h =>
      obtain ⟨o, qs, o', rfl, hqs⟩ := tokens_eq_enclosed hps
      refine reads_parsePrimary.mpr (.inr (.inr (.inl
        ⟨o, o', qs ++ ⟨.closeParen, o'⟩ :: rest, by simp, ?_⟩)))
      refine OnLevel.reads h hqs ?_ (reads_parseOperators_nil ?_ e)
      · simp [reach, Level.depth]
      · simp [reach, Level.depth]
  | .literal content =>
      obtain ⟨o, rfl⟩ := tokens_eq_singleton hps
      exact reads_parsePrimary.mpr (.inl ⟨content, o, rfl, rfl⟩)
  | .number value =>
      obtain ⟨o, rfl⟩ := tokens_eq_singleton hps
      exact reads_parsePrimary.mpr (.inr (.inl ⟨value, o, rfl, rfl⟩))
  | .call hn h =>
      obtain ⟨o, qs, rfl, hqs⟩ := tokens_eq_cons hps
      obtain ⟨o₁, rs, o₂, rfl, hrs⟩ := tokens_eq_enclosed hqs
      exact reads_parsePrimary.mpr (.inr (.inr (.inr ⟨_, o, o₁, rs ++ ⟨.closeParen, o₂⟩ :: rest,
        _, by simp, hn, Arguments.reads h hrs o₂ rest, rfl⟩)))
  termination_by structural h

theorem Arguments.reads {us : List Token} {es : List Expr} (h : Arguments us es)
    {ps : List Placed} (hps : tokens ps = us) (o : Nat) (rest : List Placed) :
    Reads (parseArgs (ps ++ ⟨.closeParen, o⟩ :: rest)) es rest := by
  match h with
  | .none =>
      obtain rfl := tokens_eq_nil hps
      exact reads_parseArgs.mpr (.inl ⟨o, rfl, rfl⟩)
  | .some h =>
      exact reads_parseArgs.mpr (.inr
        ⟨h.begins.head_append_ne hps _ rfl, ArgumentList.reads h hps o rest⟩)
  termination_by structural h

theorem ArgumentList.reads {us : List Token} {es : List Expr} (h : ArgumentList us es)
    {ps : List Placed} (hps : tokens ps = us) (o : Nat) (rest : List Placed) :
    Reads (parseArgList (ps ++ ⟨.closeParen, o⟩ :: rest)) es rest := by
  match h with
  | .last h =>
      refine reads_parseArgList.mpr ⟨_, _, ?_, .inl ⟨o, rfl, rfl⟩⟩
      refine OnLevel.reads h hps ?_ (reads_parseOperators_nil ?_ _)
      · simp [reach, Level.depth]
      · simp [reach, Level.depth]
  | .cons h hes =>
      obtain ⟨qs, rs, rfl, hqs, hrs⟩ := tokens_eq_append hps
      obtain ⟨o', ws, rfl, hws⟩ := tokens_eq_cons hrs
      rw [List.append_assoc]
      refine reads_parseArgList.mpr ⟨_, _, ?_, .inr
        ⟨o', _, _, rfl, ArgumentList.reads hes hws o rest, rfl⟩⟩
      refine OnLevel.reads h hqs ?_ (reads_parseOperators_nil ?_ _)
      · simp [reach, Level.depth]
      · simp [reach, Level.depth]
  termination_by structural h

theorem Predicates.reads {us : List Token} {es : List Expr} (h : Predicates us es)
    {ps rest : List Placed} (hps : tokens ps = us) (hs : StopsAt 0 rest) :
    Reads (parsePredicates (ps ++ rest)) es rest := by
  match h with
  | .nil =>
      obtain rfl := tokens_eq_nil hps
      exact reads_parsePredicates_nil hs
  | .cons h hes =>
      obtain ⟨qs, rs, rfl, hqs, hrs⟩ := tokens_eq_append hps
      obtain ⟨o, vs, rfl, hvs⟩ := tokens_eq_cons hqs
      obtain ⟨o', ws, rfl, hws⟩ := tokens_eq_cons hrs
      refine reads_parsePredicates.mpr (.inl ⟨o, o', vs ++ ⟨.closeBracket, o'⟩ :: (ws ++ rest),
        _, ws ++ rest, _, by simp, ?_, Predicates.reads hes hws hs, rfl⟩)
      refine OnLevel.reads h hvs ?_ (reads_parseOperators_nil ?_ _)
      · simp [reach, Level.depth]
      · simp [reach, Level.depth]
  termination_by structural h

theorem Location.reads {us : List Token} {e : Expr} (h : Location us e) {ps rest : List Placed}
    (hps : tokens ps = us) (hs : StopsAt 2 rest) :
    Reads (parseLocation (ps ++ rest)) e rest := by
  match h with
  | .root =>
      obtain ⟨o, rfl⟩ := tokens_eq_singleton hps
      refine reads_parseLocation.mpr (.inl ⟨o, rest, rfl, ?_⟩)
      simp [hs.beginsStep]
  | .absolute h =>
      obtain ⟨o, qs, rfl, hqs⟩ := tokens_eq_cons hps
      refine reads_parseLocation.mpr (.inl ⟨o, qs ++ rest, rfl, ?_⟩)
      rw [h.begins.beginsStep hqs rest, if_pos rfl]
      exact ⟨_, Relative.reads h hqs o (hs.mono (by omega)), rfl⟩
  | .anywhere h =>
      obtain ⟨o, qs, rfl, hqs⟩ := tokens_eq_cons hps
      exact reads_parseLocation.mpr (.inr (.inl
        ⟨o, qs ++ rest, _, rfl, Relative.reads h hqs o (hs.mono (by omega)), rfl⟩))
  | .relative h =>
      exact reads_parseLocation.mpr (.inr (.inr
        ⟨h.begins.beginsStep hps rest, _, Relative.reads h hps 0 (hs.mono (by omega)), rfl⟩))
  termination_by structural h

theorem Relative.reads {us : List Token} {ss : List Step} (h : Relative us ss)
    {ps rest : List Placed} (hps : tokens ps = us) (last : Nat) (hs : StopsAt 1 rest) :
    ReadsRelative last (ps ++ rest) ss rest := by
  match h with
  | .last h =>
      exact ⟨_, rest, [], StepPart.reads h hps last (hs.mono (by omega)),
        reads_parseSteps_nil hs, rfl⟩
  | .cons h hc =>
      obtain ⟨qs, rs, rfl, hqs, hrs⟩ := tokens_eq_append hps
      rw [List.append_assoc]
      refine ⟨_, rs ++ rest, _, StepPart.reads h hqs last ?_, Continuation.reads hc hrs hs, rfl⟩
      exact hc.stopsAt hrs rest
  termination_by structural h

theorem Continuation.reads {us : List Token} {ss : List Step} (h : Continuation us ss)
    {ps rest : List Placed} (hps : tokens ps = us) (hs : StopsAt 1 rest) :
    Reads (parseSteps (ps ++ rest)) ss rest := by
  match h with
  | .slash h =>
      obtain ⟨o, qs, rfl, hqs⟩ := tokens_eq_cons hps
      exact reads_parseSteps.mpr (.inl ⟨o, qs ++ rest, rfl, Relative.reads h hqs o hs⟩)
  | .doubleSlash h =>
      obtain ⟨o, qs, rfl, hqs⟩ := tokens_eq_cons hps
      exact reads_parseSteps.mpr (.inr (.inl
        ⟨o, qs ++ rest, _, rfl, Relative.reads h hqs o hs, rfl⟩))
  termination_by structural h

theorem StepPart.reads {us : List Token} {s : Step} (h : StepPart us s) {ps rest : List Placed}
    (hps : tokens ps = us) (last : Nat) (hs : StopsAt 0 rest) :
    Reads (parseStep last (ps ++ rest)) s rest := by
  match h with
  | .dot =>
      obtain ⟨o, rfl⟩ := tokens_eq_singleton hps
      exact reads_parseStep.mpr (.inl ⟨o, rfl, rfl⟩)
  | .dotDot =>
      obtain ⟨o, rfl⟩ := tokens_eq_singleton hps
      exact reads_parseStep.mpr (.inr (.inl ⟨o, rfl, rfl⟩))
  | .full ha ht hp =>
      obtain ⟨xs, vs, rfl, hxs, hvs⟩ := tokens_eq_append hps
      obtain ⟨qs, rs, rfl, hqs, hrs⟩ := tokens_eq_append hxs
      have htest : BeginsWith beginsTest (tokens (rs ++ (vs ++ rest))) := by
        rw [tokens_append, hrs]
        exact ht.begins.append _
      obtain ⟨last', haxis⟩ := ha.reads hqs htest last
      have hfull := ha.begins_append ht
      have hdot := hfull.head_append_ne hxs (vs ++ rest) (t := .dot) rfl
      have hdotDot := hfull.head_append_ne hxs (vs ++ rest) (t := .dotDot) rfl
      rw [List.append_assoc] at hdot hdotDot
      rw [List.append_assoc, List.append_assoc]
      exact reads_parseStep.mpr (.inr (.inr ⟨hdot, hdotDot, _, last', _, _, _, _, haxis,
        ht.reads hrs last' (vs ++ rest), Predicates.reads hp hvs hs, rfl⟩))
  termination_by structural h

end

theorem parseTokens_eq_ok_iff {ts : List Placed} {e : Expr} :
    parseTokens ts = .ok e ↔ Reads (parseLevel .or ts) e [] := by
  unfold parseTokens
  constructor
  · intro h
    split at h
    · cases h
    · obtain ⟨⟨e', rest, hlt⟩, hread, h⟩ := bind_eq_ok.mp h
      simp only at h
      split at h
      · next hrest =>
        obtain rfl := List.isEmpty_iff.mp hrest
        cases h
        exact ⟨hlt, hread⟩
      · cases h
  · rintro ⟨hlt, hread⟩
    have hne : ts.isEmpty = false := by
      cases ts with
      | nil => simp at hlt
      | cons t ts => rfl
    simp [hne, hread, bind, Except.bind, pure, Except.pure]

theorem reads_all_iff {ts : List Placed} {e : Expr} :
    Reads (parseLevel .or ts) e [] ↔ OnLevel .or (tokens ts) e := by
  constructor
  · intro h
    obtain ⟨used, hts, hused⟩ := onLevel_of_reads h
    rw [hts, List.append_nil]
    exact hused
  · intro h
    have hread : Reads (parseLevel .or (ts ++ [])) e [] :=
      h.reads rfl (stopsAt_nil _) (reads_parseOperators_nil (stopsAt_nil _) e)
    rwa [List.append_nil] at hread

/-- A text whose tokens can be read is an expression exactly when the grammar
derives all of its tokens, and is then read as the tree that the grammar gives;
a text without tokens is rejected as empty. -/
theorem parse_eq_ok_iff_derivable {source : String} {ts : List Placed}
    (h : tokenize source = .ok ts) :
    (∀ e, parse source = .ok e ↔ OnLevel .or (tokens ts) e) ∧
      (ts = [] → parse source =
        .error (.syntaxError source source.utf8ByteSize .emptyExpression)) := by
  constructor
  · intro e
    rw [← reads_all_iff, ← parseTokens_eq_ok_iff]
    unfold parse
    simp only [h]
    cases parseTokens ts with
    | error fault => simp
    | ok e' => simp
  · rintro rfl
    unfold parse
    rw [h]
    rfl

/-- A minus sign stands above a union; the slash at the end of the text is a path
of its own. -/
theorem parse_minus_filter_union_root :
    parse "-(//a)[.]|/" = .ok (.negate (.union
      (.filter (.path true [.mk .descendantOrSelf .node [], .mk .child (.name "a") []])
        [.path false [.mk .self .node []]] [])
      (.path true []))) := by
  have htokens : tokenize "-(//a)[.]|/" = .ok [⟨.minus, 0⟩, ⟨.openParen, 1⟩,
      ⟨.doubleSlash, 2⟩, ⟨.name "a", 4⟩, ⟨.closeParen, 5⟩, ⟨.openBracket, 6⟩, ⟨.dot, 7⟩,
      ⟨.closeBracket, 8⟩, ⟨.pipe, 9⟩, ⟨.slash, 10⟩] := by
    cbv
  refine ((parse_eq_ok_iff_derivable htokens).1 _).mpr ?_
  have hlevel {us : List Token} {e : Expr} (h : Unary us e) : OnLevel .or us e :=
    .operand (.tighter .or_and (.operand (.tighter .and_equality (.operand
      (.tighter .equality_relational (.operand (.tighter .relational_additive (.operand
        (.tighter .additive_multiplicative (.operand (.unary h)))))))))))
  have hname : Test [.name "a"] (.name "a") := test_name_iff.mpr (by rfl)
  have hinner : OnLevel .or [.doubleSlash, .name "a"] _ :=
    hlevel (.union (.path (.location (.anywhere (.last (.full .missing hname .nil))))))
  have hdot : OnLevel .or [.dot] _ :=
    hlevel (.union (.path (.location (.relative (.last .dot)))))
  have hfilter : Filter [.openParen, .doubleSlash, .name "a", .closeParen, .openBracket, .dot,
      .closeBracket] _ _ :=
    .mk (.group hinner) (.cons hdot .nil)
  exact hlevel (.minus (.union (.union (.path (.narrowed hfilter)) (.location .root))))

end Harvest.XPath.Grammar
