import Harvest.Proofs.XPath.Respelling
import Harvest.Proofs.XPath.Tracking
import Mathlib

/-!
Where a syntax error is reported.

Tokens that can be taken are the first tokens of a text that is accepted: such a text is the one at
hand up to there, spelled with blanks, and the signs that end everything that has been begun. So an
error lies with the first token that no accepted text has there, or with the end of the text; only
where a step is awaited at the end does it lie with the last token.
-/

namespace Harvest.XPath

open Harvest.Text Progress

def IsExpression (us : List Token) : Prop :=
  ∃ source ts e, tokenize source = .ok ts ∧ tokens ts = us ∧ parse source = .ok e

/-- The first tokens of a text that is accepted. -/
def Viable (us : List Token) : Prop := ∃ vs, IsExpression (us ++ vs)

/-- Some of the first tokens of a text that is accepted, but not all of its tokens. -/
def EndsEarly (us : List Token) : Prop := ∃ vs, vs ≠ [] ∧ IsExpression (us ++ vs)

theorem EndsEarly.viable {us vs : List Token} (h : EndsEarly (us ++ vs)) : Viable us := by
  obtain ⟨ws, -, h⟩ := h
  exact ⟨vs ++ ws, List.append_assoc us vs ws ▸ h⟩

theorem parse_eq {source : String} {ts : List Placed} (h : tokenize source = .ok ts) :
    parse source = (parseTokens ts).mapError fun fault =>
      .syntaxError source (fault.position.getD source.utf8ByteSize) fault.problem := by
  unfold parse
  rw [h]
  cases hparse : parseTokens ts <;> simp only [hparse, Except.mapError]

theorem parse_eq_ok_iff {source : String} {ts : List Placed} (h : tokenize source = .ok ts)
    {e : Expr} : parse source = .ok e ↔ parseTokens ts = .ok e := by
  rw [parse_eq h]
  cases parseTokens ts with
  | error fault => constructor <;> intro h <;> cases h
  | ok e' => constructor <;> intro h <;> cases h <;> rfl

theorem IsExpression.run {us : List Token} (h : IsExpression us) :
    ∃ s, start.run us = some s ∧ s.isComplete = true := by
  obtain ⟨source, ts, e, htokens, rfl, he⟩ := h
  exact exists_parseTokens_eq_ok_iff.mp ⟨e, (parse_eq_ok_iff htokens).mp he⟩

/-- What a text spells is an expression if it can be taken to something complete. -/
theorem Spells.isExpression {w : List Char} {us : List Token} (h : Spells false w us)
    {s : Progress} (hrun : start.run us = some s) (hs : s.isComplete = true) :
    IsExpression us := by
  obtain ⟨ts, hts, rfl⟩ := h 0
  have htokens : tokenize (String.ofList w) = .ok ts := by
    rw [tokenize, String.toList_ofList, hts]
  obtain ⟨e, he⟩ := exists_parseTokens_eq_ok_iff.mpr ⟨s, hrun, hs⟩
  exact ⟨_, ts, e, htokens, rfl, (parse_eq_ok_iff htokens).mpr he⟩

/-! Spelling the signs that end what has been begun. -/

section Signs

variable {afterOperand : Bool} {c : Char} {t : Token} {v : List Char} {us : List Token}

theorem spells_sign (hblank : isBlank c = false)
    (hread : ∀ v, readToken afterOperand c (' ' :: v) = .ok (t, 0)) (ht : ∀ next, t.Before next)
    (h : Spells t.endsOperand v us) :
    ∃ w, Spells afterOperand w (t :: us) ∧ ahead w = some c :=
  ⟨_, @Spells.cons _ _ [] _ _ _ hblank (fun v _ => hread v) (ht _) h, ahead_cons hblank _⟩

/-- A sign that does not change how the token before it is read. -/
theorem spells_plain_sign (hblank : isBlank c = false) (hplain : c ≠ '(' ∧ c ≠ ':')
    (hread : ∀ v, readToken afterOperand c (' ' :: v) = .ok (t, 0)) (ht : ∀ next, t.Before next)
    (h : Spells t.endsOperand v us) :
    ∃ w, Spells afterOperand w (t :: us) ∧ ahead w ≠ some '(' ∧ ahead w ≠ some ':' := by
  obtain ⟨w, hw, hahead⟩ := spells_sign hblank hread ht h
  refine ⟨w, hw, ?_⟩
  rw [hahead]
  exact ⟨fun heq => hplain.1 (Option.some.inj heq), fun heq => hplain.2 (Option.some.inj heq)⟩

end Signs

/-- Whether the character may come next at a place: a parenthesis where one has to open, and
nothing that could be one, or a colon, elsewhere. -/
def Place.Allows (next : Option Char) : Place → Prop
  | .typeOpen | .callOpen => next = some '('
  | _ => next ≠ some '(' ∧ next ≠ some ':'

theorem exists_spells_closers (afterOperand : Bool) (opened : List Bracket) :
    ∃ v, Spells afterOperand v (opened.map Bracket.closer) ∧
      ahead v ≠ some '(' ∧ ahead v ≠ some ':' := by
  induction opened generalizing afterOperand with
  | nil => exact ⟨[], spells_nil _, nofun, nofun⟩
  | cons b opened ih =>
      obtain ⟨v, hv, -⟩ := ih b.closer.endsOperand
      cases b with
      | group | call =>
          have hread (v : List Char) : readToken afterOperand ')' (' ' :: v) =
            .ok (.closeParen, 0) := rfl
          exact spells_plain_sign (by decide) (by decide) hread (fun _ => trivial) hv
      | predicate =>
          have hread (v : List Char) : readToken afterOperand ']' (' ' :: v) =
            .ok (.closeBracket, 0) := rfl
          exact spells_plain_sign (by decide) (by decide) hread (fun _ => trivial) hv

theorem exists_spells_completion (s : Progress) {afterOperand : Bool}
    (h : s.place = .test → afterOperand = false) :
    ∃ v, Spells afterOperand v s.completion ∧ s.place.Allows (ahead v) := by
  obtain ⟨place, opened⟩ := s
  cases place with
  | operand | path | step | arguments =>
      have hread (v : List Char) : readToken afterOperand '.' (' ' :: v) = .ok (.dot, 0) := rfl
      obtain ⟨v, hv, -⟩ := exists_spells_closers true opened
      exact spells_plain_sign (by decide) (by decide) hread (fun _ => trivial) hv
  | test =>
      -- Behind an operand the star would be read as the sign of a product.
      obtain rfl := h rfl
      have hread (v : List Char) : readToken false '*' (' ' :: v) = .ok (.star, 0) := rfl
      obtain ⟨v, hv, -⟩ := exists_spells_closers true opened
      exact spells_plain_sign (by decide) (by decide) hread (fun _ => trivial) hv
  | typeOpen | callOpen =>
      have hread (v : List Char) : readToken afterOperand '(' (' ' :: v) =
        .ok (.openParen, 0) := rfl
      obtain ⟨v, hv, -⟩ := exists_spells_closers false (.group :: opened)
      exact spells_sign (by decide) hread (fun _ => trivial) hv
  | typeArgument | typeClose => exact exists_spells_closers afterOperand (.group :: opened)
  | root | narrowable | ended => exact exists_spells_closers afterOperand opened

/-- Behind a token comes what may come at the place behind it. -/
theorem before_of_allows {place : Place} {t : Token} {next : Option Char}
    (h : place ∈ placesBehind t) (hnext : place.Allows next) : t.Before next := by
  cases t with
  | functionName | nodeType =>
      obtain rfl := List.mem_singleton.mp h
      exact hnext
  | name =>
      obtain rfl := List.mem_singleton.mp h
      exact hnext
  | _ => trivial

theorem endsOperand_of_test {t : Token} (h : Place.test ∈ placesBehind t) :
    t.endsOperand = false := by
  cases t <;> first | rfl | simp [placesBehind] at h

/-- The first tokens of a text that can be taken are those of an expression that ends what they
begin. -/
theorem isExpression_completion {source : String} {pre post : List Placed}
    (h : tokenize source = .ok (pre ++ post)) {s : Progress}
    (hrun : start.run (tokens pre) = some s) : IsExpression (tokens pre ++ s.completion) := by
  obtain ⟨s', hs', hcomplete⟩ := s.exists_run_completion
  have hwhole : start.run (tokens pre ++ s.completion) = some s' := by
    rw [run_append, hrun]
    exact hs'
  have hlast := mem_placesBehind_getLast? hrun
  have htest : s.place = .test →
      (tokens pre).getLast?.elim false Token.endsOperand = false := by
    intro htest
    cases ht : (tokens pre).getLast? with
    | none => rfl
    | some t => exact endsOperand_of_test (htest ▸ hlast t ht)
  obtain ⟨v, hv, hallows⟩ := exists_spells_completion s htest
  -- The source cannot just be cut off here: its last token is read by what comes next.
  obtain ⟨w, hw, -⟩ := exists_spells h hv fun t ht => before_of_allows (hlast t ht) hallows
  exact hw.isExpression hwhole hcomplete

/-- Tokens of which the last one cannot be taken begin no text that is accepted. -/
theorem not_viable {us : List Token} {t : Token} {s : Progress} (hrun : start.run us = some s)
    (hnone : s.next t = none) : ¬ Viable (us ++ [t]) := by
  rintro ⟨vs, h⟩
  obtain ⟨s', hs', -⟩ := h.run
  rw [run_append, run_append, hrun, Option.bind_some, run_singleton, hnone] at hs'
  cases hs'

/-- Tokens that can be taken to something incomplete end too early. -/
theorem endsEarly_of_run {source : String} {ts : List Placed} (htokens : tokenize source = .ok ts)
    {s : Progress} (hrun : start.run (tokens ts) = some s) (hs : s.isComplete = false) :
    EndsEarly (tokens ts) := by
  rw [← List.append_nil ts] at htokens
  refine ⟨s.completion, fun hnil => ?_, isExpression_completion htokens hrun⟩
  -- If nothing had to be added, the tokens would be complete as they are.
  obtain ⟨s', hs', hcomplete⟩ := s.exists_run_completion
  rw [hnil] at hs'
  cases hs'
  rw [hs] at hcomplete
  cases hcomplete

/-- The position of a fault at the end of the tokens. -/
theorem position_at_end {fault : Fault} {ts : List Placed} {s : Progress} {size : Nat}
    (hrun : start.run (tokens ts) = some s)
    (hposition : fault.position =
      if s.place.awaitsStep then some ((ts.getLast?.map (·.offset)).getD 0) else none) :
    some (fault.position.getD size) =
      if awaitsStep (tokens ts) then ts.getLast?.map (·.offset) else some size := by
  rw [hposition, awaitsStep_of_run hrun]
  cases hawaits : awaitsStep (tokens ts) with
  | false => rfl
  | true =>
      cases hlast : ts.getLast? with
      | some t => rfl
      | none =>
          rw [List.getLast?_eq_none_iff.mp hlast] at hawaits
          cases hawaits

/-- Where an error lies: at the end of a text that ends early, except that where a step is awaited
there it lies with the last token; otherwise with the first token that no accepted text has in this
place. -/
theorem syntaxError_position {source : String} {ts : List Placed} {error : Error}
    (htokens : tokenize source = .ok ts) (herror : parse source = .error error) :
    ∃ position problem, error = .syntaxError source position problem ∧
      (EndsEarly (tokens ts) → some position =
        if awaitsStep (tokens ts) then ts.getLast?.map (·.offset)
        else some source.utf8ByteSize) ∧
      (¬ EndsEarly (tokens ts) → ∃ pre t post, ts = pre ++ t :: post ∧
        Viable (tokens pre) ∧ ¬ Viable (tokens pre ++ [t.token]) ∧ position = t.offset) := by
  have hfollows := follows_parseTokens ts
  rw [parse_eq htokens] at herror
  cases hparse : parseTokens ts with
  | ok e =>
      rw [hparse] at herror
      cases herror
  | error fault =>
      rw [hparse] at herror hfollows
      cases herror
      refine ⟨_, _, rfl, ?_⟩
      obtain ⟨s, hrun, hcomplete, hposition⟩ | ⟨pre, t, post, s, rfl, hrun, hnone, hposition⟩ :=
        Strays.run hfollows
      · exact ⟨fun _ => position_at_end hrun hposition,
          fun h => absurd (endsEarly_of_run htokens hrun hcomplete) h⟩
      · have hviable : Viable (tokens pre) := ⟨_, isExpression_completion htokens hrun⟩
        have hbeyond := not_viable hrun hnone
        refine ⟨fun hearly => absurd ?_ hbeyond, fun _ =>
          ⟨pre, t, post, rfl, hviable, hbeyond, by rw [hposition]; rfl⟩⟩
        rw [tokens_append, tokens_cons, List.append_cons] at hearly
        exact hearly.viable

/-- A bracket that is closed as a parenthesis: the closing one is where the error is reported. -/
theorem syntaxError_position_predicate :
    parse "a[)" = .error (.syntaxError "a[)" 2 (.expected "a location step")) ∧
    ∃ pre t post, [⟨.name "a", 0⟩, ⟨.openBracket, 1⟩, ⟨.closeParen, 2⟩] = pre ++ t :: post ∧
      Viable (tokens pre) ∧ ¬ Viable (tokens pre ++ [t.token]) ∧ 2 = t.offset := by
  have htokens : tokenize "a[)" = .ok [⟨.name "a", 0⟩, ⟨.openBracket, 1⟩, ⟨.closeParen, 2⟩] := by
    cbv
  have herror : parse "a[)" = .error (.syntaxError "a[)" 2 (.expected "a location step")) := by
    cbv
  have hbeyond : ¬ Viable [.name "a", .openBracket, .closeParen] :=
    @not_viable [.name "a", .openBracket] .closeParen ⟨.operand, [.predicate]⟩ rfl rfl
  obtain ⟨position, problem, heq, -, htoken⟩ := syntaxError_position htokens herror
  cases heq
  exact ⟨herror, htoken fun hearly => hbeyond (@EndsEarly.viable _ [] hearly)⟩

/-- A text that ends where a step is awaited: the error lies before its last token, not behind
it. -/
theorem syntaxError_at_double_slash :
    tokenize "//" = .ok [⟨.doubleSlash, 0⟩] ∧ EndsEarly [.doubleSlash] ∧
      parse "//" = .error (.syntaxError "//" 0 (.expected "a node test")) ∧
      "//".utf8ByteSize = 2 := by
  have htokens : tokenize "//" = .ok [⟨.doubleSlash, 0⟩] := by cbv
  exact ⟨htokens, endsEarly_of_run htokens (s := ⟨.step, []⟩) rfl rfl, by cbv, rfl⟩

end Harvest.XPath
