import Harvest.Proofs.XPath.Agreement
import Harvest.XPath.Parser
import Mathlib.Tactic.Simproc.ExistsAndEq

/-!
What the functions of the parser accept, one rule for each.

The functions return what is left over together with a proof that it is shorter.
`Reads` forgets that proof. A rule says of one function exactly when it succeeds
in terms of the functions that it calls; the lemmas on soundness and completeness
use the rules in one direction each and open no function.
-/

namespace Harvest.XPath

def tokens (ts : List Placed) : List Token := ts.map (·.token)

@[simp] theorem tokens_nil : tokens [] = [] := rfl

@[simp] theorem tokens_cons (t : Placed) (ts : List Placed) :
    tokens (t :: ts) = t.token :: tokens ts := rfl

@[simp] theorem tokens_append (ts us : List Placed) :
    tokens (ts ++ us) = tokens ts ++ tokens us :=
  List.map_append ..

theorem head?_tokens_eq_some {ts : List Placed} {t : Token} :
    (tokens ts).head? = some t ↔ ∃ o us, ts = ⟨t, o⟩ :: us := by
  cases ts with
  | nil => simp
  | cons p us =>
      obtain ⟨token, o⟩ := p
      simp

variable {α β : Type} {p q : List Placed → Prop}

/-- The parser succeeds with a result and what is left over. -/
def Reads (x : Except Fault (α × { r : List Placed // p r })) (a : α) (rest : List Placed) :
    Prop :=
  ∃ h, x = .ok (a, ⟨rest, h⟩)

theorem Reads.left {x : Except Fault (α × { r : List Placed // p r })} {a : α}
    {rest : List Placed} (h : Reads x a rest) : p rest :=
  h.1

@[simp] theorem reads_ok {a b : α} {r rest : List Placed} {h : p r} :
    Reads (.ok (a, (⟨r, h⟩ : { r : List Placed // p r }))) b rest ↔ b = a ∧ rest = r := by
  constructor
  · rintro ⟨_, h⟩
    cases h
    exact ⟨rfl, rfl⟩
  · rintro ⟨rfl, rfl⟩
    exact ⟨h, rfl⟩

@[simp] theorem not_reads_error {fault : Fault} {a : α} {rest : List Placed} :
    ¬ Reads (p := p) (.error fault) a rest := by
  rintro ⟨_, h⟩
  cases h

@[simp] theorem reads_pure {a b : α} {r rest : List Placed} {h : p r} :
    Reads (pure (a, (⟨r, h⟩ : { r : List Placed // p r }))) b rest ↔ b = a ∧ rest = r :=
  reads_ok

@[simp] theorem not_reads_throw {fault : Fault} {a : α} {rest : List Placed} :
    ¬ Reads (p := p) (throw fault) a rest :=
  not_reads_error

theorem reads_bind {γ : Type} {x : Except Fault γ}
    {f : γ → Except Fault (β × { r : List Placed // q r })} {b : β} {rest : List Placed} :
    Reads (x >>= f) b rest ↔ ∃ c, x = .ok c ∧ Reads (f c) b rest := by
  unfold Reads
  constructor
  · rintro ⟨h, hx⟩
    obtain ⟨c, hc, hf⟩ := bind_eq_ok.mp hx
    exact ⟨c, hc, h, hf⟩
  · rintro ⟨c, hc, h, hf⟩
    exact ⟨h, bind_eq_ok.mpr ⟨c, hc, hf⟩⟩

theorem reads_bind_reads {x : Except Fault (α × { r : List Placed // p r })}
    {f : α × { r : List Placed // p r } → Except Fault (β × { r : List Placed // q r })}
    {b : β} {rest : List Placed} :
    Reads (x >>= f) b rest ↔
      ∃ a r, ∃ h : p r, x = .ok (a, ⟨r, h⟩) ∧ Reads (f (a, ⟨r, h⟩)) b rest := by
  simp only [reads_bind, Prod.exists, Subtype.exists]

/-- Whether comparison with the token is equality; it need not be where a token
carries a number. -/
def Token.IsSign (sign : Token) : Prop :=
  ∀ t : Token, (t == sign) = true ↔ t = sign

theorem Token.isSign_openParen : Token.openParen.IsSign := by
  intro t
  cases t with
  | openParen => exact ⟨fun _ => rfl, fun _ => rfl⟩
  | _ => exact ⟨nofun, nofun⟩

theorem Token.isSign_closeParen : Token.closeParen.IsSign := by
  intro t
  cases t with
  | closeParen => exact ⟨fun _ => rfl, fun _ => rfl⟩
  | _ => exact ⟨nofun, nofun⟩

theorem Token.isSign_closeBracket : Token.closeBracket.IsSign := by
  intro t
  cases t with
  | closeBracket => exact ⟨fun _ => rfl, fun _ => rfl⟩
  | _ => exact ⟨nofun, nofun⟩

theorem Token.isSign_comma : Token.comma.IsSign := by
  intro t
  cases t with
  | comma => exact ⟨fun _ => rfl, fun _ => rfl⟩
  | _ => exact ⟨nofun, nofun⟩

theorem expect_eq_ok {sign : Token} (hs : sign.IsSign) {what : String} {ts : List Placed}
    {r : Shorter ts} :
    expect sign what ts = .ok r ↔ ∃ o, ts = ⟨sign, o⟩ :: r.1 := by
  obtain ⟨r, hr⟩ := r
  cases ts with
  | nil => simp [expect]
  | cons t rest =>
      obtain ⟨token, o⟩ := t
      rw [expect]
      by_cases h : token = sign
      · subst h
        rw [if_pos ((hs token).mpr rfl)]
        simp
      · rw [if_neg fun h' => h ((hs token).mp h')]
        simp [h]

theorem length_lt_of_eq_cons {ts us : List Placed} {t : Placed} (h : ts = t :: us) :
    us.length < ts.length := by
  rw [h]
  exact Nat.lt_succ_self us.length

theorem reads_bind_expect {sign : Token} (hs : sign.IsSign) {what : String} {ts : List Placed}
    {f : Shorter ts → Except Fault (β × { r : List Placed // q r })} {b : β}
    {rest : List Placed} :
    Reads (expect sign what ts >>= f) b rest ↔
      ∃ o us, ∃ h : ts = ⟨sign, o⟩ :: us, Reads (f ⟨us, length_lt_of_eq_cons h⟩) b rest := by
  simp only [reads_bind, expect_eq_ok hs]
  constructor
  · rintro ⟨⟨r, hr⟩, ⟨o, h⟩, hf⟩
    exact ⟨o, r, h, hf⟩
  · rintro ⟨o, us, h, hf⟩
    exact ⟨_, ⟨o, h⟩, hf⟩

/-- The operands of a level are read by the next level, and at the last one by
the minus signs. -/
def ReadsOperand (l : Level) (ts : List Placed) (e : Expr) (rest : List Placed) : Prop :=
  match l.next? with
  | some m => Reads (parseLevel m ts) e rest
  | none => Reads (parseUnary ts) e rest

theorem ReadsOperand.shorter {l : Level} {ts rest : List Placed} {e : Expr}
    (h : ReadsOperand l ts e rest) : rest.length < ts.length := by
  unfold ReadsOperand at h
  split at h
  · exact h.left
  · exact h.left

theorem reads_parseLevel {l : Level} {ts rest : List Placed} {e : Expr} :
    Reads (parseLevel l ts) e rest ↔
      ∃ left r, ReadsOperand l ts left r ∧ Reads (parseOperators l left r) e rest := by
  rw [parseLevel]
  unfold ReadsOperand
  split
  · next m hm =>
    simp only [reads_bind_reads, reads_pure]
    simp [Reads, hm]
  · next hm =>
    simp only [reads_bind_reads, reads_pure]
    simp [Reads, hm]

theorem reads_parseOperators {l : Level} {left e : Expr} {ts rest : List Placed} :
    Reads (parseOperators l left ts) e rest ↔
      (∃ t us op right r, ts = t :: us ∧ l.operator? t.token = some op ∧
        ReadsOperand l us right r ∧
        Reads (parseOperators l (.binary op left right) r) e rest) ∨
      ((∀ t ∈ (tokens ts).head?, l.operator? t = none) ∧ e = left ∧ rest = ts) := by
  rw [parseOperators.eq_def]
  cases ts with
  | nil => simp
  | cons t us =>
      cases ht : l.operator? t.token with
      | none => simp [ht]
      | some op =>
          simp only [ht]
          unfold ReadsOperand
          split
          · next m hm =>
            simp only [reads_bind_reads, reads_pure]
            simp [Reads, hm, ht]
          · next hm =>
            simp only [reads_bind_reads, reads_pure]
            simp [Reads, hm, ht]

theorem reads_parseUnary {ts rest : List Placed} {e : Expr} :
    Reads (parseUnary ts) e rest ↔
      (∃ o us operand, ts = ⟨.minus, o⟩ :: us ∧ Reads (parseUnary us) operand rest ∧
        e = .negate operand) ∨
      ((tokens ts).head? ≠ some .minus ∧
        ∃ left r, Reads (parsePath ts) left r ∧ Reads (parseUnion left r) e rest) := by
  rw [parseUnary.eq_def]
  split
  · next o us =>
    simp only [reads_bind_reads, reads_pure]
    simp [Reads]
  · next hne =>
    simp only [imp_false] at hne
    simp only [reads_bind_reads, reads_pure]
    simp [Reads, head?_tokens_eq_some, hne]

theorem reads_parseUnion {left e : Expr} {ts rest : List Placed} :
    Reads (parseUnion left ts) e rest ↔
      (∃ o us right r, ts = ⟨.pipe, o⟩ :: us ∧ Reads (parsePath us) right r ∧
        Reads (parseUnion (.union left right) r) e rest) ∨
      ((tokens ts).head? ≠ some .pipe ∧ e = left ∧ rest = ts) := by
  rw [parseUnion.eq_def]
  split
  · next o us =>
    simp only [reads_bind_reads, reads_pure]
    simp [Reads]
  · next hne =>
    simp only [imp_false] at hne
    simp [head?_tokens_eq_some, hne]

theorem reads_parsePath {ts rest : List Placed} {e : Expr} :
    Reads (parsePath ts) e rest ↔
      if (tokens ts).head?.any Token.beginsPrimary then Reads (parseFilter ts) e rest
      else Reads (parseLocation ts) e rest := by
  rw [parsePath.eq_def]
  cases ts with
  | nil => simp
  | cons t us =>
      cases h : t.token.beginsPrimary <;> simp [h]

theorem reads_parseFilter {ts rest : List Placed} {e : Expr} :
    Reads (parseFilter ts) e rest ↔
      ∃ primary r₁ predicates r₂ steps, Reads (parsePrimary ts) primary r₁ ∧
        Reads (parsePredicates r₁) predicates r₂ ∧ Reads (parseSteps r₂) steps rest ∧
        e = if predicates.isEmpty && steps.isEmpty then primary
          else .filter primary predicates steps := by
  rw [parseFilter]
  simp only [reads_bind_reads, reads_pure]
  simp [Reads]

theorem reads_parsePrimary {ts rest : List Placed} {e : Expr} :
    Reads (parsePrimary ts) e rest ↔
      (∃ content o, ts = ⟨.literal content, o⟩ :: rest ∧ e = .literal content) ∨
      (∃ value o, ts = ⟨.number value, o⟩ :: rest ∧ e = .number value) ∨
      (∃ o o' us, ts = ⟨.openParen, o⟩ :: us ∧
        Reads (parseLevel .or us) e (⟨.closeParen, o'⟩ :: rest)) ∨
      ∃ name o o' us args, ts = ⟨.functionName name, o⟩ :: ⟨.openParen, o'⟩ :: us ∧
        name ∈ functionNames ∧ Reads (parseArgs us) args rest ∧ e = .function name args := by
  rw [parsePrimary.eq_def]
  split
  · simp [and_comm, eq_comm]
  · simp [and_comm, eq_comm]
  · next o us =>
    simp only [reads_bind_reads, reads_bind_expect Token.isSign_closeParen, reads_pure]
    simp [Reads]
  · next name o us =>
    by_cases hn : name ∈ functionNames
    · simp only [List.contains_iff_mem, hn, if_true, reads_bind_reads,
        reads_bind_expect Token.isSign_openParen, reads_pure]
      simp [Reads, hn]
    · simp [hn]
  · next h₁ h₂ h₃ h₄ =>
    simp only [imp_false] at h₁ h₂ h₃ h₄
    simp [h₁, h₂, h₃, h₄]

theorem reads_parseArgs {ts rest : List Placed} {es : List Expr} :
    Reads (parseArgs ts) es rest ↔
      (∃ o, ts = ⟨.closeParen, o⟩ :: rest ∧ es = []) ∨
      ((tokens ts).head? ≠ some .closeParen ∧ Reads (parseArgList ts) es rest) := by
  rw [parseArgs.eq_def]
  split
  · simp [eq_comm, and_comm]
  · next hne =>
    simp only [imp_false] at hne
    simp [head?_tokens_eq_some, hne]

theorem reads_parseArgList {ts rest : List Placed} {es : List Expr} :
    Reads (parseArgList ts) es rest ↔
      ∃ arg r, Reads (parseLevel .or ts) arg r ∧
        ((∃ o, r = ⟨.closeParen, o⟩ :: rest ∧ es = [arg]) ∨
        ∃ o us args, r = ⟨.comma, o⟩ :: us ∧ Reads (parseArgList us) args rest ∧
          es = arg :: args) := by
  rw [parseArgList.eq_def, reads_bind_reads]
  constructor
  · rintro ⟨arg, r, h, hx, hr⟩
    refine ⟨arg, r, ⟨h, hx⟩, ?_⟩
    simp only at hr
    split at hr
    · simpa [and_comm, eq_comm] using hr
    · simp only [reads_bind_reads, reads_bind_expect Token.isSign_comma, reads_pure] at hr
      obtain ⟨o, us, rfl, args, r, h, hargs, rfl, rfl⟩ := hr
      exact .inr ⟨o, us, args, rfl, ⟨h, hargs⟩, rfl⟩
  · rintro ⟨arg, r, ⟨h, hx⟩, hr⟩
    refine ⟨arg, r, h, hx, ?_⟩
    obtain ⟨o, rfl, rfl⟩ | ⟨o, us, args, rfl, ⟨h', hargs⟩, rfl⟩ := hr
    · simp
    · simp only [reads_bind_reads, reads_bind_expect Token.isSign_comma, reads_pure]
      exact ⟨o, us, rfl, args, rest, h', hargs, rfl, rfl⟩

theorem reads_parsePredicates {ts rest : List Placed} {es : List Expr} :
    Reads (parsePredicates ts) es rest ↔
      (∃ o o' us predicate r predicates, ts = ⟨.openBracket, o⟩ :: us ∧
        Reads (parseLevel .or us) predicate (⟨.closeBracket, o'⟩ :: r) ∧
        Reads (parsePredicates r) predicates rest ∧ es = predicate :: predicates) ∨
      ((tokens ts).head? ≠ some .openBracket ∧ es = [] ∧ rest = ts) := by
  rw [parsePredicates.eq_def]
  split
  · next o us =>
    simp only [reads_bind_reads, reads_bind_expect Token.isSign_closeBracket, reads_pure]
    constructor
    · rintro ⟨predicate, _, hr, hp, o', r, rfl, predicates, _, hs, hps, rfl, rfl⟩
      exact .inl ⟨o, o', us, predicate, r, predicates, rfl, ⟨hr, hp⟩, ⟨hs, hps⟩, rfl⟩
    · rintro (⟨_, o', _, predicate, r, predicates, heq, ⟨hr, hp⟩, ⟨hs, hps⟩, rfl⟩ | ⟨hne, -⟩)
      · cases heq
        exact ⟨predicate, _, hr, hp, o', r, rfl, predicates, rest, hs, hps, rfl, rfl⟩
      · simp at hne
  · next hne =>
    simp only [imp_false] at hne
    simp [head?_tokens_eq_some, hne]

def ReadsRelative (last : Nat) (ts : List Placed) (steps : List Step) (rest : List Placed) :
    Prop :=
  ∃ step r more, Reads (parseStep last ts) step r ∧ Reads (parseSteps r) more rest ∧
    steps = step :: more

theorem reads_parseLocation {ts rest : List Placed} {e : Expr} :
    Reads (parseLocation ts) e rest ↔
      (∃ o us, ts = ⟨.slash, o⟩ :: us ∧
        if beginsStep us then ∃ steps, ReadsRelative o us steps rest ∧ e = .path true steps
        else e = .path true [] ∧ rest = us) ∨
      (∃ o us steps, ts = ⟨.doubleSlash, o⟩ :: us ∧ ReadsRelative o us steps rest ∧
        e = .path true (.anyDepth :: steps)) ∨
      (beginsStep ts = true ∧
        ∃ steps, ReadsRelative 0 ts steps rest ∧ e = .path false steps) := by
  rw [parseLocation.eq_def]
  unfold ReadsRelative
  split
  · next o us =>
    have hslash : beginsStep (⟨.slash, o⟩ :: us) = false := rfl
    cases hb : beginsStep us with
    | true =>
        simp only [if_true, reads_bind_reads, reads_pure]
        simp [Reads, hslash, hb, and_assoc]
    | false => simp [hslash, hb]
  · next o us =>
    have hslash : beginsStep (⟨.doubleSlash, o⟩ :: us) = false := rfl
    simp only [reads_bind_reads, reads_pure]
    simp [Reads, hslash, and_assoc]
  · next h₁ h₂ =>
    simp only [imp_false] at h₁ h₂
    cases hb : beginsStep ts with
    | true =>
        simp only [if_true, reads_bind_reads, reads_pure]
        simp [Reads, h₁, h₂, and_assoc]
    | false => simp [h₁, h₂]

theorem reads_parseSteps {ts rest : List Placed} {steps : List Step} :
    Reads (parseSteps ts) steps rest ↔
      (∃ o us, ts = ⟨.slash, o⟩ :: us ∧ ReadsRelative o us steps rest) ∨
      (∃ o us more, ts = ⟨.doubleSlash, o⟩ :: us ∧ ReadsRelative o us more rest ∧
        steps = .anyDepth :: more) ∨
      ((tokens ts).head? ≠ some .slash ∧ (tokens ts).head? ≠ some .doubleSlash ∧
        steps = [] ∧ rest = ts) := by
  rw [parseSteps.eq_def]
  unfold ReadsRelative
  split
  · next o us =>
    simp only [reads_bind_reads, reads_pure]
    simp [Reads, and_assoc]
  · next o us =>
    simp only [reads_bind_reads, reads_pure]
    simp [Reads, and_assoc]
  · next h₁ h₂ =>
    simp only [imp_false] at h₁ h₂
    simp [head?_tokens_eq_some, h₁, h₂]

def ReadsAxis (last : Nat) (ts : List Placed) (axis : Axis) (last' : Nat)
    (rest : List Placed) : Prop :=
  ∃ h, parseAxis last ts = .ok (axis, last', ⟨rest, h⟩)

/-- A node type is followed by parentheses with at most a literal in them. -/
theorem reads_parseTest_nodeType {last o : Nat} {kind : String} {us rest : List Placed}
    {test : NodeTest} :
    Reads (parseTest last (⟨.nodeType kind, o⟩ :: us)) test rest ↔
      test = .ofType kind ∧
      ((∃ o₁ o₂, us = ⟨.openParen, o₁⟩ :: ⟨.closeParen, o₂⟩ :: rest) ∨
      ∃ o₁ content o' o₂,
        us = ⟨.openParen, o₁⟩ :: ⟨.literal content, o'⟩ :: ⟨.closeParen, o₂⟩ :: rest) := by
  rw [parseTest.eq_def]
  simp only [reads_bind_expect Token.isSign_openParen,
    reads_bind_expect Token.isSign_closeParen, reads_pure]
  constructor
  · rintro ⟨o₁, r₁, rfl, o₂, r₂, hr, rfl, rfl⟩
    refine ⟨rfl, ?_⟩
    split at hr
    · next content o' r _ _ =>
      cases hr
      exact .inr ⟨o₁, content, o', o₂, rfl⟩
    · cases hr
      exact .inl ⟨o₁, o₂, rfl⟩
  · rintro ⟨rfl, ⟨o₁, o₂, rfl⟩ | ⟨o₁, content, o', o₂, rfl⟩⟩
    · exact ⟨o₁, _, rfl, o₂, rest, rfl, rfl, rfl⟩
    · exact ⟨o₁, _, rfl, o₂, rest, rfl, rfl, rfl⟩

theorem reads_parseStep {last : Nat} {ts rest : List Placed} {step : Step} :
    Reads (parseStep last ts) step rest ↔
      (∃ o, ts = ⟨.dot, o⟩ :: rest ∧ step = .here) ∨
      (∃ o, ts = ⟨.dotDot, o⟩ :: rest ∧ step = .up) ∨
      ((tokens ts).head? ≠ some .dot ∧ (tokens ts).head? ≠ some .dotDot ∧
        ∃ axis last' r₁ test r₂ predicates, ReadsAxis last ts axis last' r₁ ∧
          Reads (parseTest last' r₁) test r₂ ∧ Reads (parsePredicates r₂) predicates rest ∧
          step = .mk axis test predicates) := by
  rw [parseStep.eq_def]
  split
  · simp [eq_comm, and_comm]
  · simp [eq_comm, and_comm]
  · next h₁ h₂ =>
    simp only [imp_false] at h₁ h₂
    simp only [head?_tokens_eq_some, h₁, h₂, false_and, exists_false, false_or, ne_eq,
      not_false_eq_true, true_and]
    rw [reads_bind]
    constructor
    · rintro ⟨⟨axis, last', r₁, h₁⟩, ha, hx⟩
      simp only [reads_bind_reads, reads_pure] at hx
      obtain ⟨test, r₂, h₂, ht, predicates, _, h₃, hp, rfl, rfl⟩ := hx
      exact ⟨axis, last', r₁, test, r₂, predicates, ⟨h₁, ha⟩, ⟨h₂, ht⟩, ⟨h₃, hp⟩, rfl⟩
    · rintro ⟨axis, last', r₁, test, r₂, predicates, ⟨h₁, ha⟩, ⟨h₂, ht⟩, ⟨h₃, hp⟩, rfl⟩
      refine ⟨_, ha, ?_⟩
      simp only [reads_bind_reads, reads_pure]
      exact ⟨test, r₂, h₂, ht, predicates, rest, h₃, hp, rfl, rfl⟩

end Harvest.XPath
