import Harvest.Proofs.XPath.Progress

/-!
The parser keeps to the places.

Each function of the parser is given the place where it begins. What it takes can be taken from
there, and it leaves off at a place from which what comes next, if it can come there at all, is for
others to take. A fault lies with the first token that cannot be taken, or with the end where what
has been taken is not complete.
-/

namespace Harvest.XPath

open Grammar (reach)

/-- The tokens can be taken up to where the fault lies. `last` is the offset of the token before
them: where a step is awaited in vain, the fault lies with the token that asks for it. -/
inductive Strays (fault : Fault) : Nat → Progress → List Placed → Prop
  | ended {last : Nat} {s : Progress} (hs : s.isComplete = false)
      (hp : fault.position = if s.place.awaitsStep then some last else none) :
      Strays fault last s []
  | here {last : Nat} {s : Progress} {t : Placed} {ts : List Placed}
      (hs : s.next t.token = none) (hp : fault.position = some t.offset) :
      Strays fault last s (t :: ts)
  | later {last : Nat} {s s' : Progress} {t : Placed} {ts : List Placed}
      (hs : s.next t.token = some s') (h : Strays fault t.offset s' ts) :
      Strays fault last s (t :: ts)

inductive Reaches (Q : Nat → Progress → List Placed → Prop) : Nat → Progress → List Placed → Prop
  | here {last : Nat} {s : Progress} {ts : List Placed} (h : Q last s ts) : Reaches Q last s ts
  | later {last : Nat} {s s' : Progress} {t : Placed} {ts : List Placed}
      (hs : s.next t.token = some s') (h : Reaches Q t.offset s' ts) :
      Reaches Q last s (t :: ts)

/-- A part of the parser keeps to the places: it reaches what is asked of its result, or strays. -/
def Follows {α : Type} (last : Nat) (s : Progress) (ts : List Placed) (x : Except Fault α)
    (Q : α → Nat → Progress → List Placed → Prop) : Prop :=
  match x with
  | .ok a => Reaches (Q a) last s ts
  | .error fault => Strays fault last s ts

section Follows

variable {α β : Type} {last : Nat} {s s' : Progress} {t : Placed} {ts : List Placed}
  {x : Except Fault α} {Q Q' : α → Nat → Progress → List Placed → Prop}

theorem Follows.ok {a : α} (h : Q a last s ts) : Follows last s ts (.ok a) Q := .here h

theorem Follows.later (hs : s.next t.token = some s') (h : Follows t.offset s' ts x Q) :
    Follows last s (t :: ts) x Q := by
  cases x with
  | ok a => exact .later hs h
  | error fault => exact .later hs h

theorem Follows.bind {f : α → Except Fault β} {Q : β → Nat → Progress → List Placed → Prop}
    (h : Follows last s ts x fun a last s ts => Follows last s ts (f a) Q) :
    Follows last s ts (x >>= f) Q := by
  cases x with
  | error fault => exact h
  | ok a =>
      replace h : Reaches (fun last s ts => Follows last s ts (f a) Q) last s ts := h
      show Follows last s ts (f a) Q
      induction h with
      | here h => exact h
      | later hs _ ih => exact .later hs ih

theorem Follows.mono (h : Follows last s ts x Q)
    (hQ : ∀ a last s ts, Q a last s ts → Q' a last s ts) : Follows last s ts x Q' := by
  cases x with
  | error fault => exact h
  | ok a =>
      replace h : Reaches (Q a) last s ts := h
      show Reaches (Q' a) last s ts
      induction h with
      | here h => exact .here (hQ _ _ _ _ h)
      | later hs _ ih => exact .later hs ih

/-- What comes after a part begins where the part has led to. -/
theorem Follows.then {f : α → Except Fault β} {Q' : β → Nat → Progress → List Placed → Prop}
    (h : Follows last s ts x Q)
    (hf : ∀ a last s ts, Q a last s ts → Follows last s ts (f a) Q') :
    Follows last s ts (x >>= f) Q' :=
  .bind (h.mono hf)

/-- A fault at the first token that is left, where this cannot be taken. -/
theorem follows_error_at (hnext : ∀ t ∈ (tokens ts).head?, s.next t = none)
    (hcomplete : s.isComplete = false) (hawaits : s.place.awaitsStep = false)
    (problem : SyntaxProblem) : Follows last s ts (.error (.at ts problem)) Q := by
  cases ts with
  | nil => exact .ended hcomplete (by rw [hawaits]; rfl)
  | cons t ts => exact .here (hnext t.token rfl) rfl

/-- Taking a given sign, where nothing else can come. -/
theorem follows_expect {sign : Token} (hsign : sign.IsSign) {what : String}
    (hs : s.next sign = some s') (hother : ∀ t ∈ (tokens ts).head?, t ≠ sign → s.next t = none)
    (hcomplete : s.isComplete = false) (hawaits : s.place.awaitsStep = false) :
    Follows last s ts (expect sign what ts) fun r _ s'' rest => rest = r.1 ∧ s'' = s' := by
  cases ts with
  | nil => exact .ended hcomplete (by rw [hawaits]; rfl)
  | cons t ts =>
      rw [expect]
      split
      · next ht =>
        have hs : s.next t.token = some s' := (hsign t.token).mp ht ▸ hs
        exact .later hs (.ok ⟨rfl, rfl⟩)
      · next ht =>
        exact .here (hother t.token rfl fun heq => ht ((hsign t.token).mpr heq)) rfl

end Follows

/-! What the functions of the parser ask for and what they leave. -/

namespace Progress

/-- What comes next has to be of one kind, and something has to come. -/
structure Expects (kind : List Bracket → Token → Option Progress) (s : Progress)
    (ts : List Placed) : Prop where
  next : ∀ t ∈ (tokens ts).head?, s.next t = kind s.opened t
  incomplete : s.isComplete = false
  awaits : s.place.awaitsStep = false

/-- What comes next, if it can come at all, continues nothing up to the bound. -/
def Settled (n : Nat) (s : Progress) (rest : List Placed) : Prop :=
  ∀ t ∈ (tokens rest).head?, s.next t ≠ none → n < reach t

/-- Behind something complete, with what has not been taken left over. -/
structure Leaves (ends : Place → Bool) (n : Nat) (opened : List Bracket) (left : List Placed)
    (_last : Nat) (s : Progress) (rest : List Placed) : Prop where
  left : rest = left
  opened : s.opened = opened
  place : ends s.place = true
  settled : s.Settled n rest

variable {s : Progress} {t : Token} {ts : List Placed} {n : Nat}

theorem expects_operand (opened : List Bracket) (ts : List Placed) :
    (Progress.mk .operand opened).Expects expression? ts :=
  ⟨fun _ _ => rfl, Bool.and_false _, rfl⟩

theorem expects_path (opened : List Bracket) (ts : List Placed) :
    (Progress.mk .path opened).Expects path? ts :=
  ⟨fun _ _ => rfl, Bool.and_false _, rfl⟩

theorem Settled.mono {m : Nat} (h : s.Settled n ts) (hmn : m ≤ n) : s.Settled m ts :=
  fun t ht hs => Nat.lt_of_le_of_lt hmn (h t ht hs)

section EndsPath

variable (hplace : s.place.endsPath = true)
include hplace

theorem next_pipe : s.next .pipe = some ⟨.path, s.opened⟩ := by
  obtain ⟨place, opened⟩ := s
  cases place with
  | root | narrowable | ended => rfl
  | _ => cases hplace

theorem next_operator {l : Level} {op : BinaryOp} (ht : l.operator? t = some op) :
    s.next t = some ⟨.operand, s.opened⟩ := by
  obtain ⟨place, opened⟩ := s
  cases Grammar.operator?_eq_some_iff.mp ht
  all_goals
    cases place with
    | root | narrowable | ended => rfl
    | _ => cases hplace

/-- Beyond the operators only what ends an expression can come. -/
theorem next_of_settled {o : Nat} (h : s.Settled 9 (⟨t, o⟩ :: ts)) :
    s.next t = none ∨ s.next t = closing? s.opened t := by
  by_cases hs : s.next t = none
  · exact .inl hs
  · have hreach := h t rfl hs
    obtain ⟨place, opened⟩ := s
    refine .inr ?_
    cases place with
    | root | narrowable | ended =>
        cases t <;> first | rfl | simp [reach] at hreach
    | _ => cases hplace

theorem awaitsStep_of_endsPath : s.place.awaitsStep = false := by
  obtain ⟨place, opened⟩ := s
  cases place <;> first | rfl | cases hplace

end EndsPath

theorem isComplete_of_opened {b : Bracket} {outer : List Bracket} (h : s.opened = b :: outer) :
    s.isComplete = false := by
  rw [isComplete, h]
  rfl

theorem isComplete_of_place (h : s.place.endsPath = false) : s.isComplete = false := by
  rw [isComplete, h, Bool.and_false]

theorem isComplete_of_awaitsStep (h : s.place.awaitsStep = true) : s.isComplete = false := by
  obtain ⟨place, opened⟩ := s
  refine isComplete_of_place ?_
  cases place <;> first | rfl | cases h

theorem closing?_eq_none {b : Bracket} (hb : b ≠ .call) {outer : List Bracket}
    (ht : t ≠ b.closer) : closing? (b :: outer) t = none := by
  cases b with
  | call => exact absurd rfl hb
  | group | predicate => cases t <;> first | rfl | exact absurd rfl ht

end Progress

open Progress

theorem Bracket.isSign_closer (b : Bracket) : b.closer.IsSign := by
  cases b with
  | group | call => exact Token.isSign_closeParen
  | predicate => exact Token.isSign_closeBracket

/-- The expression in brackets is followed by the sign that closes them. -/
theorem Progress.Leaves.follows_expect {b : Bracket} {outer : List Bracket} {last : Nat}
    {s : Progress} {left ts : List Placed} (h : Leaves Place.endsPath 9 (b :: outer) left last s ts)
    (hb : b ≠ .call) (what : String) : Follows last s left (expect b.closer what left)
      fun r _ s' rest => rest = r.1 ∧ s' = ⟨.narrowable, outer⟩ := by
  obtain ⟨rfl, hopened, hplace, hsettled⟩ := h
  refine XPath.follows_expect b.isSign_closer ?_ (fun t ht hne => ?_) (isComplete_of_opened hopened)
    (awaitsStep_of_endsPath hplace)
  · obtain ⟨place, opened⟩ := s
    obtain rfl : opened = b :: outer := hopened
    exact next_closer hplace b outer
  · obtain ⟨o, us, rfl⟩ := head?_tokens_eq_some.mp ht
    obtain hnone | hclosing := next_of_settled hplace hsettled
    · exact hnone
    · rw [hclosing, hopened, closing?_eq_none hb hne]

namespace Progress.Leaves

variable {outer : List Bracket} {last : Nat} {s : Progress} {left ts : List Placed}
  (h : Leaves Place.endsPath 9 (.call :: outer) left last s ts)
include h

theorem next_closeParen : s.next .closeParen = some ⟨.narrowable, outer⟩ := by
  obtain ⟨place, opened⟩ := s
  obtain rfl : opened = .call :: outer := h.opened
  exact next_closer h.place .call outer

theorem next_comma : s.next .comma = some ⟨.operand, .call :: outer⟩ := by
  obtain ⟨place, opened⟩ := s
  obtain rfl : opened = .call :: outer := h.opened
  have hplace : place.endsPath = true := h.place
  cases place with
  | root | narrowable | ended => rfl
  | _ => cases hplace

/-- An argument that is not the last one is followed by a comma. -/
theorem follows_comma (hclose : ∀ o us, left = ⟨.closeParen, o⟩ :: us → False) (what : String) :
    Follows last s left (expect .comma what left) fun r _ s' rest =>
      rest = r.1 ∧ s' = ⟨.operand, .call :: outer⟩ := by
  refine XPath.follows_expect Token.isSign_comma h.next_comma (fun t ht hne => ?_)
    (isComplete_of_opened h.opened) (awaitsStep_of_endsPath h.place)
  obtain ⟨o, us, rfl⟩ := head?_tokens_eq_some.mp ht
  have hsettled := h.left ▸ h.settled
  obtain hnone | hclosing := next_of_settled h.place hsettled
  · exact hnone
  · rw [hclosing, h.opened]
    cases t with
    | closeParen => exact (hclose o us rfl).elim
    | comma => exact absurd rfl hne
    | _ => rfl

end Progress.Leaves

/-! One lemma for each function. -/

/-- Where the tokens may have ended, the step that has to come is awaited in vain, and the token
that asks for it is the one before. -/
def Awaits (before last : Nat) (s : Progress) (ts : List Placed) : Prop :=
  ts = [] → before = last ∧ s.place.awaitsStep = true

theorem follows_parseAxis {before last : Nat} {s : Progress} {ts : List Placed}
    (hnext : ∀ t ∈ (tokens ts).head?, s.next t = step? s.opened t)
    (hdot : ∀ o us, ts = ⟨.dot, o⟩ :: us → False)
    (hdotDot : ∀ o us, ts = ⟨.dotDot, o⟩ :: us → False) (hend : Awaits before last s ts) :
    Follows last s ts (parseAxis before ts) fun r last' s' rest =>
      rest = r.2.2.1 ∧ s'.opened = s.opened ∧
        (∀ t ∈ (tokens rest).head?, s'.next t = test? s.opened t) ∧
        Awaits r.2.1 last' s' rest := by
  unfold parseAxis
  split
  · exact .later (hnext .at rfl) (.ok ⟨rfl, rfl, fun _ _ => rfl, fun _ => ⟨rfl, rfl⟩⟩)
  · next name o us =>
    have hname := hnext (.axisName name) rfl
    rw [step?] at hname
    split
    · next axis haxis =>
      rw [haxis, Option.isSome_some, if_pos rfl] at hname
      exact .later hname (.ok ⟨rfl, rfl, fun _ _ => rfl, fun _ => ⟨rfl, rfl⟩⟩)
    · next haxis =>
      rw [haxis] at hname
      exact .here hname rfl
  · next hat haxis =>
    refine .ok ⟨rfl, rfl, fun t ht => ?_, hend⟩
    obtain ⟨o, us, rfl⟩ := head?_tokens_eq_some.mp ht
    rw [hnext t ht]
    cases t with
    | dot => exact (hdot o us rfl).elim
    | dotDot => exact (hdotDot o us rfl).elim
    | «at» => exact (hat o us rfl).elim
    | axisName name => exact (haxis name o us rfl).elim
    | _ => rfl

theorem follows_parseTest {before last : Nat} {s : Progress} {ts : List Placed}
    (hnext : ∀ t ∈ (tokens ts).head?, s.next t = test? s.opened t)
    (hend : Awaits before last s ts) :
    Follows last s ts (parseTest before ts) fun r _ s' rest =>
      rest = r.2.1 ∧ s' = ⟨.narrowable, s.opened⟩ := by
  rw [parseTest.eq_def]
  split
  · exact .later (hnext .star rfl) (.ok ⟨rfl, rfl⟩)
  · next text o us => exact .later (hnext (.name text) rfl) (.ok ⟨rfl, rfl⟩)
  · next kind o us =>
    refine .later (hnext (.nodeType kind) rfl) ?_
    refine (follows_expect Token.isSign_openParen rfl (fun t _ ht => ?_)
      (isComplete_of_place rfl) rfl).then ?_
    · cases t <;> first | rfl | exact absurd rfl ht
    · rintro ⟨r₁, h₁⟩ last s' rest ⟨rfl, rfl⟩
      cases rest with
      | nil => exact .ended (isComplete_of_place rfl) rfl
      | cons t us =>
        obtain ⟨t, o⟩ := t
        cases t with
        | closeParen => exact .later rfl (.ok ⟨rfl, rfl⟩)
        | literal content =>
            refine .later rfl ((follows_expect Token.isSign_closeParen rfl (fun t _ ht => ?_)
              (isComplete_of_place rfl) rfl).then ?_)
            · cases t <;> first | rfl | exact absurd rfl ht
            · rintro ⟨r₃, h₃⟩ last s' rest ⟨rfl, rfl⟩
              exact .ok ⟨rfl, rfl⟩
        | _ => exact .here rfl rfl
  · obtain ⟨rfl, hawaits⟩ := hend rfl
    exact .ended (isComplete_of_awaitsStep hawaits) (by rw [hawaits]; rfl)
  · next hstar hname htype hne =>
    cases ts with
    | nil => exact absurd rfl hne
    | cons t us =>
      obtain ⟨t, o⟩ := t
      refine .here ?_ rfl
      rw [hnext t rfl]
      cases t with
      | star => exact (hstar o us rfl).elim
      | name text => exact (hname text o us rfl).elim
      | nodeType kind => exact (htype kind o us rfl).elim
      | _ => rfl

/-- A sign is the first of the tokens or it is not. -/
theorem head_cases (sign : Token) (ts : List Placed) :
    (∃ o us, ts = ⟨sign, o⟩ :: us) ∨ ∀ o us, ts = ⟨sign, o⟩ :: us → False := by
  by_cases h : ∃ o us, ts = ⟨sign, o⟩ :: us
  · exact .inl h
  · exact .inr fun o us hts => h ⟨o, us, hts⟩

/-- The tokens that reach as far as the operators of a level are these. -/
theorem operator?_ne_none {l : Level} {t : Token} (h : reach t = 4 + l.depth) :
    l.operator? t ≠ none := by
  cases l <;> cases t <;> first | (simp [reach, Level.depth] at h; done) | exact Option.some_ne_none _

/-- Where no operator of the level follows, what the tighter levels leave is settled. -/
theorem settled_operators {l : Level} {t : Placed} {ts : List Placed} {s : Progress}
    (hs : s.Settled (3 + l.depth) (t :: ts)) (ht : l.operator? t.token = none) :
    s.Settled (4 + l.depth) (t :: ts) := by
  rintro _ ⟨⟩ hnext
  have hreach : 3 + l.depth < reach t.token := hs t.token rfl hnext
  show 4 + l.depth < reach t.token
  exact Nat.lt_of_le_of_ne (by omega) fun heq => operator?_ne_none heq.symm ht

theorem settled_union {ts : List Placed} {s : Progress} (hs : s.Settled 2 ts)
    (hpipe : ∀ o us, ts = ⟨.pipe, o⟩ :: us → False) : s.Settled 3 ts := by
  intro t ht hnext
  have hreach := hs t ht hnext
  obtain ⟨o, us, rfl⟩ := head?_tokens_eq_some.mp ht
  refine Nat.lt_of_le_of_ne hreach fun heq => ?_
  cases t with
  | pipe => exact hpipe o us rfl
  | _ => exact absurd heq (by simp [reach])

theorem settled_ended (opened : List Bracket) (ts : List Placed) :
    (Progress.mk .ended opened).Settled 0 ts := by
  intro t _ hnext
  cases t with
  | openBracket => exact absurd rfl hnext
  | _ => simp [reach]

theorem settled_narrowable {opened : List Bracket} {ts : List Placed}
    (h : ∀ o us, ts = ⟨.openBracket, o⟩ :: us → False) :
    (Progress.mk .narrowable opened).Settled 0 ts := by
  intro t ht _
  obtain ⟨o, us, rfl⟩ := head?_tokens_eq_some.mp ht
  cases t with
  | openBracket => exact (h o us rfl).elim
  | _ => simp [reach]

theorem two_lt_reach {opened : List Bracket} {t : Token} (h : behindPath? opened t ≠ none) :
    2 < reach t := by
  cases t <;> first | (simp [reach]; done) | exact absurd rfl h

theorem settled_root {opened : List Bracket} {ts : List Placed} (h : beginsStep ts = false) :
    (Progress.mk .root opened).Settled 2 ts := by
  intro t ht hnext
  obtain ⟨o, us, rfl⟩ := head?_tokens_eq_some.mp ht
  have hbegins : t.beginsStep = false := h
  have hbehind : (Progress.mk .root opened).next t = behindPath? opened t :=
    if_neg (Bool.eq_false_iff.mp hbegins)
  exact two_lt_reach (hbehind ▸ hnext)

theorem next_of_endsStep {s : Progress} (hplace : s.place.endsStep = true) {t : Token}
    (hs : 0 < reach t) : s.next t = behindStep? s.opened t := by
  obtain ⟨place, opened⟩ := s
  cases place with
  | ended => rfl
  | narrowable => cases t <;> first | rfl | exact absurd hs (Nat.lt_irrefl 0)
  | _ => cases hplace

theorem settled_steps {s : Progress} (hplace : s.place.endsStep = true) {ts : List Placed}
    (hs : s.Settled 0 ts) (hslash : ∀ o us, ts = ⟨.slash, o⟩ :: us → False)
    (hdouble : ∀ o us, ts = ⟨.doubleSlash, o⟩ :: us → False) : s.Settled 2 ts := by
  intro t ht hnext
  have hreach := hs t ht hnext
  obtain ⟨o, us, rfl⟩ := head?_tokens_eq_some.mp ht
  rw [next_of_endsStep hplace hreach] at hnext
  refine @two_lt_reach s.opened t ?_
  cases t with
  | slash => exact (hslash o us rfl).elim
  | doubleSlash => exact (hdouble o us rfl).elim
  | _ => exact hnext

theorem Progress.endsPath_of_endsStep {place : Place} (h : place.endsStep = true) :
    place.endsPath = true := by
  cases place <;> first | rfl | cases h

/-- Without a minus sign it is a path that comes. -/
theorem Progress.Expects.path {ts : List Placed} {s : Progress} (h : s.Expects expression? ts)
    (hminus : ∀ o us, ts = ⟨.minus, o⟩ :: us → False) : s.Expects path? ts where
  next t ht := by
    rw [h.next t ht]
    obtain ⟨o, us, rfl⟩ := head?_tokens_eq_some.mp ht
    cases t with
    | minus => exact (hminus o us rfl).elim
    | _ => rfl
  incomplete := h.incomplete
  awaits := h.awaits

/-- Unless a call ends at once, an argument comes. -/
theorem expects_arguments (opened : List Bracket) {ts : List Placed}
    (hclose : ∀ o us, ts = ⟨.closeParen, o⟩ :: us → False) :
    (Progress.mk .arguments (.call :: opened)).Expects expression? ts where
  next t ht := by
    obtain ⟨o, us, rfl⟩ := head?_tokens_eq_some.mp ht
    cases t with
    | closeParen => exact (hclose o us rfl).elim
    | _ => rfl
  incomplete := rfl
  awaits := rfl

/-- Behind the slash of the root a step is taken where one begins. -/
theorem next_root {opened : List Bracket} {ts : List Placed} (h : beginsStep ts = true) :
    ∀ t ∈ (tokens ts).head?, (Progress.mk .root opened).next t = step? opened t := by
  intro t ht
  obtain ⟨o, us, rfl⟩ := head?_tokens_eq_some.mp ht
  exact if_pos h

theorem Progress.Expects.step {ts : List Placed} {s : Progress} (h : s.Expects path? ts)
    (hbegins : beginsStep ts = true) :
    ∀ t ∈ (tokens ts).head?, s.next t = step? s.opened t := by
  intro t ht
  rw [h.next t ht]
  obtain ⟨o, us, rfl⟩ := head?_tokens_eq_some.mp ht
  cases t <;> first | rfl | cases hbegins

theorem awaits_of_beginsStep {before last : Nat} {s : Progress} {ts : List Placed}
    (h : beginsStep ts = true) : Awaits before last s ts := by
  rintro rfl
  cases h

theorem Progress.Expects.next_eq_none {ts : List Placed} {s : Progress} (h : s.Expects path? ts)
    (hprimary : (tokens ts).head?.any Token.beginsPrimary = false)
    (hslash : ∀ o us, ts = ⟨.slash, o⟩ :: us → False)
    (hdouble : ∀ o us, ts = ⟨.doubleSlash, o⟩ :: us → False)
    (hbegins : ¬ beginsStep ts = true) : ∀ t ∈ (tokens ts).head?, s.next t = none := by
  intro t ht
  rw [h.next t ht]
  obtain ⟨o, us, rfl⟩ := head?_tokens_eq_some.mp ht
  cases t with
  | slash => exact (hslash o us rfl).elim
  | doubleSlash => exact (hdouble o us rfl).elim
  | _ => first | rfl | exact absurd rfl hbegins | cases hprimary

mutual

theorem follows_parseLevel (l : Level) {last : Nat} {s : Progress} {ts : List Placed}
    (h : s.Expects expression? ts) : Follows last s ts (parseLevel l ts) fun r =>
      Leaves Place.endsPath (4 + l.depth) s.opened r.2.1 := by
  rw [parseLevel.eq_def]
  split
  · next m hm =>
    have hdepth : l.depth = m.depth + 1 := Grammar.depth_precedes (Grammar.next?_eq_some_iff.mp hm)
    -- What the tighter level leaves continues nothing within it, so only an operator of this level
    -- or what ends the expression can come next.
    refine (follows_parseLevel m h).then ?_
    rintro ⟨left, r₁, h₁⟩ last₁ s₁ rest ⟨rfl, hopened, hplace, hsettled⟩
    refine (follows_parseOperators l left hplace (hsettled.mono (by omega))).then ?_
    rintro ⟨e, r₂, h₂⟩ last₂ s₂ rest hleaves
    exact .ok (hopened ▸ hleaves)
  · next hm =>
    obtain rfl := Grammar.eq_multiplicative_of_next? hm
    refine (follows_parseUnary h).then ?_
    rintro ⟨left, r₁, h₁⟩ last₁ s₁ rest ⟨rfl, hopened, hplace, hsettled⟩
    refine (follows_parseOperators .multiplicative left hplace hsettled).then ?_
    rintro ⟨e, r₂, h₂⟩ last₂ s₂ rest hleaves
    exact .ok (hopened ▸ hleaves)
  termination_by (ts.length, 21 + 2 * l.depth)

theorem follows_parseOperators (l : Level) (left : Expr) {last : Nat} {s : Progress}
    {ts : List Placed} (hplace : s.place.endsPath = true) (hs : s.Settled (3 + l.depth) ts) :
    Follows last s ts (parseOperators l left ts) fun r =>
      Leaves Place.endsPath (4 + l.depth) s.opened r.2.1 := by
  rw [parseOperators.eq_def]
  cases ts with
  | nil => exact .ok ⟨rfl, rfl, hplace, fun _ ht => by cases ht⟩
  | cons t us =>
    dsimp only
    split
    · next ht => exact .ok ⟨rfl, rfl, hplace, settled_operators hs ht⟩
    · next op ht =>
      refine .later (next_operator hplace ht) ?_
      split
      · next m hm =>
        have hdepth : l.depth = m.depth + 1 :=
          Grammar.depth_precedes (Grammar.next?_eq_some_iff.mp hm)
        refine (follows_parseLevel m (expects_operand s.opened us)).then ?_
        rintro ⟨right, r₁, h₁⟩ last₁ s₁ rest ⟨rfl, hopened, hplace, hsettled⟩
        refine (follows_parseOperators l _ hplace (hsettled.mono (by omega))).then ?_
        rintro ⟨e, r₂, h₂⟩ last₂ s₂ rest hleaves
        exact .ok (hopened ▸ hleaves)
      · next hm =>
        obtain rfl := Grammar.eq_multiplicative_of_next? hm
        refine (follows_parseUnary (expects_operand s.opened us)).then ?_
        rintro ⟨right, r₁, h₁⟩ last₁ s₁ rest ⟨rfl, hopened, hplace, hsettled⟩
        refine (follows_parseOperators .multiplicative _ hplace hsettled).then ?_
        rintro ⟨e, r₂, h₂⟩ last₂ s₂ rest hleaves
        exact .ok (hopened ▸ hleaves)
  termination_by (ts.length, 0)
  decreasing_by
    all_goals subst_vars
    all_goals exact Prod.Lex.left _ _ (by simp only [List.length_cons] at *; omega)

theorem follows_parseUnary {last : Nat} {s : Progress} {ts : List Placed}
    (h : s.Expects expression? ts) : Follows last s ts (parseUnary ts) fun r =>
      Leaves Place.endsPath 3 s.opened r.2.1 := by
  obtain ⟨o, us, rfl⟩ | hminus := head_cases .minus ts
  · rw [parseUnary]
    refine .later (h.next .minus rfl) ?_
    refine (follows_parseUnary (expects_operand s.opened us)).then ?_
    rintro ⟨e, r, h₁⟩ last₁ s₁ rest hleaves
    exact .ok hleaves
  · rw [parseUnary.eq_2 _ hminus]
    refine (follows_parsePath (h.path hminus)).then ?_
    rintro ⟨left, r₁, h₁⟩ last₁ s₁ rest ⟨rfl, hopened, hplace, hsettled⟩
    refine (follows_parseUnion left hplace hsettled).then ?_
    rintro ⟨e, r₂, h₂⟩ last₂ s₂ rest hleaves
    exact .ok (hopened ▸ hleaves)
  termination_by (ts.length, 12)

theorem follows_parseUnion (left : Expr) {last : Nat} {s : Progress} {ts : List Placed}
    (hplace : s.place.endsPath = true) (hs : s.Settled 2 ts) :
    Follows last s ts (parseUnion left ts) fun r =>
      Leaves Place.endsPath 3 s.opened r.2.1 := by
  obtain ⟨o, us, rfl⟩ | hpipe := head_cases .pipe ts
  · rw [parseUnion]
    refine .later (next_pipe hplace) ?_
    refine (follows_parsePath (expects_path s.opened us)).then ?_
    rintro ⟨right, r₁, h₁⟩ last₁ s₁ rest ⟨rfl, hopened, hplace, hsettled⟩
    refine (follows_parseUnion _ hplace hsettled).then ?_
    rintro ⟨e, r₂, h₂⟩ last₂ s₂ rest hleaves
    exact .ok (hopened ▸ hleaves)
  · rw [parseUnion.eq_2 _ _ hpipe]
    exact .ok ⟨rfl, rfl, hplace, settled_union hs hpipe⟩
  termination_by (ts.length, 0)
  decreasing_by
    all_goals subst_vars
    all_goals exact Prod.Lex.left _ _ (by simp only [List.length_cons] at *; omega)

theorem follows_parsePath {last : Nat} {s : Progress} {ts : List Placed}
    (h : s.Expects path? ts) : Follows last s ts (parsePath ts) fun r =>
      Leaves Place.endsPath 2 s.opened r.2.1 := by
  rw [parsePath.eq_def]
  cases ts with
  | nil => exact follows_parseLocation h rfl
  | cons t us =>
    dsimp only
    split
    · next ht => exact follows_parseFilter h ht
    · next ht => exact follows_parseLocation h (Bool.eq_false_iff.mpr ht)
  termination_by (ts.length, 10)
  decreasing_by
    all_goals subst_vars
    all_goals exact Prod.Lex.right _ (by decide)

theorem follows_parseFilter {last : Nat} {s : Progress} {ts : List Placed}
    (h : s.Expects path? ts) (hprimary : (tokens ts).head?.any Token.beginsPrimary = true) :
    Follows last s ts (parseFilter ts) fun r => Leaves Place.endsPath 2 s.opened r.2.1 := by
  rw [parseFilter.eq_def]
  refine (follows_parsePrimary h hprimary).then ?_
  rintro ⟨primary, r₁, h₁⟩ last₁ s₁ rest ⟨rfl, rfl⟩
  refine (follows_parsePredicates s.opened).then ?_
  rintro ⟨predicates, r₂, h₂⟩ last₂ s₂ rest ⟨rfl, hopened, hplace, hsettled⟩
  refine (follows_parseSteps hplace hsettled).then ?_
  rintro ⟨steps, r₃, h₃⟩ last₃ s₃ rest hleaves
  exact .ok (hopened ▸ hleaves)
  termination_by (ts.length, 8)

theorem follows_parsePrimary {last : Nat} {s : Progress} {ts : List Placed}
    (h : s.Expects path? ts) (hprimary : (tokens ts).head?.any Token.beginsPrimary = true) :
    Follows last s ts (parsePrimary ts) fun r _ s' rest =>
      rest = r.2.1 ∧ s' = ⟨.narrowable, s.opened⟩ := by
  rw [parsePrimary.eq_def]
  cases ts with
  | nil => cases hprimary
  | cons t us =>
    obtain ⟨t, o⟩ := t
    cases t with
    | literal content => exact .later (h.next (.literal content) rfl) (.ok ⟨rfl, rfl⟩)
    | number value => exact .later (h.next (.number value) rfl) (.ok ⟨rfl, rfl⟩)
    | openParen =>
        refine .later (h.next .openParen rfl) ?_
        refine (follows_parseLevel .or (expects_operand (.group :: s.opened) us)).then ?_
        rintro ⟨inner, r₁, h₁⟩ last₁ s₁ rest hleaves
        obtain rfl := hleaves.left
        refine (hleaves.follows_expect nofun "')'").then ?_
        rintro ⟨r₂, h₂⟩ last₂ s₂ rest ⟨rfl, rfl⟩
        exact .ok ⟨rfl, rfl⟩
    | functionName name =>
        have hname := h.next (.functionName name) rfl
        rw [path?] at hname
        dsimp only
        split
        · next hknown =>
          rw [if_pos hknown] at hname
          refine .later hname ?_
          refine (follows_expect Token.isSign_openParen rfl (fun t _ ht => ?_)
            (isComplete_of_place rfl) rfl).then ?_
          · cases t <;> first | rfl | exact absurd rfl ht
          · rintro ⟨r₁, h₁⟩ last₁ s₁ rest ⟨rfl, rfl⟩
            refine (follows_parseArgs s.opened).then ?_
            rintro ⟨args, r₂, h₂⟩ last₂ s₂ rest ⟨rfl, rfl⟩
            exact .ok ⟨rfl, rfl⟩
        · next hunknown =>
          rw [if_neg hunknown] at hname
          exact .here hname rfl
    | _ => cases hprimary
  termination_by (ts.length, 6)
  decreasing_by
    all_goals subst_vars
    all_goals exact Prod.Lex.left _ _ (by simp only [List.length_cons] at *; omega)

theorem follows_parseArgs (opened : List Bracket) {last : Nat} {ts : List Placed} :
    Follows last ⟨.arguments, .call :: opened⟩ ts (parseArgs ts) fun r _ s' rest =>
      rest = r.2.1 ∧ s' = ⟨.narrowable, opened⟩ := by
  obtain ⟨o, us, rfl⟩ | hclose := head_cases .closeParen ts
  · rw [parseArgs]
    exact .later rfl (.ok ⟨rfl, rfl⟩)
  · rw [parseArgs.eq_2 _ hclose]
    exact follows_parseArgList (expects_arguments opened hclose) rfl
  termination_by (ts.length, 33)

theorem follows_parseArgList {opened : List Bracket} {last : Nat} {s : Progress}
    {ts : List Placed} (h : s.Expects expression? ts) (hopened : s.opened = .call :: opened) :
    Follows last s ts (parseArgList ts) fun r _ s' rest =>
      rest = r.2.1 ∧ s' = ⟨.narrowable, opened⟩ := by
  rw [parseArgList.eq_def]
  refine (follows_parseLevel .or h).then ?_
  rintro ⟨arg, r₁, h₁⟩ last₁ s₁ rest hleaves
  rw [hopened] at hleaves
  obtain rfl : rest = r₁ := hleaves.left
  obtain ⟨o, us, rfl⟩ | hclose := head_cases .closeParen rest
  · exact .later hleaves.next_closeParen (.ok ⟨rfl, rfl⟩)
  · dsimp only
    split
    · exact (hclose _ _ rfl).elim
    · refine (hleaves.follows_comma hclose "',' or ')'").then ?_
      rintro ⟨r₂, h₂⟩ last₂ s₂ rest ⟨rfl, rfl⟩
      refine (follows_parseArgList (expects_operand (.call :: opened) _) rfl).then ?_
      rintro ⟨args, r₃, h₃⟩ last₃ s₃ rest ⟨rfl, rfl⟩
      exact .ok ⟨rfl, rfl⟩
  termination_by (ts.length, 32)
  decreasing_by
    · exact Prod.Lex.right _ (by decide)
    · exact Prod.Lex.left _ _ (by simp only [List.length_cons] at *; omega)

theorem follows_parsePredicates (opened : List Bracket) {last : Nat} {ts : List Placed} :
    Follows last ⟨.narrowable, opened⟩ ts (parsePredicates ts) fun r =>
      Leaves Place.endsStep 0 opened r.2.1 := by
  obtain ⟨o, us, rfl⟩ | hbracket := head_cases .openBracket ts
  · rw [parsePredicates]
    refine .later rfl ?_
    refine (follows_parseLevel .or (expects_operand (.predicate :: opened) us)).then ?_
    rintro ⟨predicate, r₁, h₁⟩ last₁ s₁ rest hleaves
    obtain rfl := hleaves.left
    refine (hleaves.follows_expect nofun "']'").then ?_
    rintro ⟨r₂, h₂⟩ last₂ s₂ rest ⟨rfl, rfl⟩
    refine (follows_parsePredicates opened).then ?_
    rintro ⟨predicates, r₃, h₃⟩ last₃ s₃ rest hleaves
    exact .ok hleaves
  · rw [parsePredicates.eq_2 _ hbracket]
    exact .ok ⟨rfl, rfl, rfl, settled_narrowable hbracket⟩
  termination_by (ts.length, 0)
  decreasing_by
    all_goals subst_vars
    all_goals exact Prod.Lex.left _ _ (by simp only [List.length_cons] at *; omega)

theorem follows_parseLocation {last : Nat} {s : Progress} {ts : List Placed}
    (h : s.Expects path? ts) (hprimary : (tokens ts).head?.any Token.beginsPrimary = false) :
    Follows last s ts (parseLocation ts) fun r => Leaves Place.endsPath 2 s.opened r.2.1 := by
  obtain ⟨o, us, rfl⟩ | hslash := head_cases .slash ts
  · rw [parseLocation]
    refine .later (h.next .slash rfl) ?_
    split
    · next hbegins =>
      refine (follows_relative (next_root hbegins) (awaits_of_beginsStep hbegins)).then ?_
      intro _ _ _ _ hsteps
      exact hsteps.then fun _ _ _ _ hleaves => .ok hleaves
    · next hbegins =>
      exact .ok ⟨rfl, rfl, rfl, settled_root (Bool.eq_false_iff.mpr hbegins)⟩
  · obtain ⟨o, us, rfl⟩ | hdouble := head_cases .doubleSlash ts
    · rw [parseLocation]
      refine .later (h.next .doubleSlash rfl) ?_
      refine (follows_relative (fun _ _ => rfl) fun _ => ⟨rfl, rfl⟩).then ?_
      intro _ _ _ _ hsteps
      exact hsteps.then fun _ _ _ _ hleaves => .ok hleaves
    · rw [parseLocation.eq_3 _ hslash hdouble]
      split
      · next hbegins =>
        refine (follows_relative (h.step hbegins) (awaits_of_beginsStep hbegins)).then ?_
        intro _ _ _ _ hsteps
        exact hsteps.then fun _ _ _ _ hleaves => .ok hleaves
      · next hbegins =>
        exact follows_error_at (h.next_eq_none hprimary hslash hdouble hbegins) h.incomplete
          h.awaits _
  termination_by (ts.length, 8)
  decreasing_by
    all_goals subst_vars
    · exact Prod.Lex.left _ _ (Nat.lt_succ_self _)
    · exact Prod.Lex.left _ _ (Nat.lt_succ_self _)
    · exact Prod.Lex.right _ (by decide)

theorem follows_parseSteps {last : Nat} {s : Progress} {ts : List Placed}
    (hplace : s.place.endsStep = true) (hs : s.Settled 0 ts) :
    Follows last s ts (parseSteps ts) fun r => Leaves Place.endsPath 2 s.opened r.2.1 := by
  obtain ⟨o, us, rfl⟩ | hslash := head_cases .slash ts
  · rw [parseSteps]
    refine .later (next_of_endsStep hplace Nat.one_pos) ?_
    refine (follows_relative (fun _ _ => rfl) fun _ => ⟨rfl, rfl⟩).then ?_
    intro _ _ _ _ hsteps
    exact hsteps.then fun _ _ _ _ hleaves => .ok hleaves
  · obtain ⟨o, us, rfl⟩ | hdouble := head_cases .doubleSlash ts
    · rw [parseSteps]
      refine .later (next_of_endsStep hplace Nat.one_pos) ?_
      refine (follows_relative (fun _ _ => rfl) fun _ => ⟨rfl, rfl⟩).then ?_
      intro _ _ _ _ hsteps
      exact hsteps.then fun _ _ _ _ hleaves => .ok hleaves
    · rw [parseSteps.eq_3 _ hslash hdouble]
      exact .ok ⟨rfl, rfl, endsPath_of_endsStep hplace,
        settled_steps hplace hs hslash hdouble⟩
  termination_by (ts.length, 0)
  decreasing_by
    all_goals subst_vars
    all_goals exact Prod.Lex.left _ _ (Nat.lt_succ_self _)

/-- A step and those that follow it. -/
theorem follows_relative {before last : Nat} {s : Progress} {ts : List Placed}
    (hnext : ∀ t ∈ (tokens ts).head?, s.next t = step? s.opened t)
    (hend : Awaits before last s ts) :
    Follows last s ts (parseStep before ts) fun r last s' rest =>
      Follows last s' rest (parseSteps r.2.1) fun r' =>
        Leaves Place.endsPath 2 s.opened r'.2.1 := by
  refine (follows_parseStep hnext hend).mono ?_
  rintro ⟨step, r₁, h₁⟩ last₁ s₁ rest ⟨rfl, hopened, hplace, hsettled⟩
  exact hopened ▸ follows_parseSteps hplace hsettled
  termination_by (ts.length, 7)

theorem follows_parseStep {before last : Nat} {s : Progress} {ts : List Placed}
    (hnext : ∀ t ∈ (tokens ts).head?, s.next t = step? s.opened t)
    (hend : Awaits before last s ts) :
    Follows last s ts (parseStep before ts) fun r => Leaves Place.endsStep 0 s.opened r.2.1 := by
  rw [parseStep.eq_def]
  split
  · exact .later (hnext .dot rfl) (.ok ⟨rfl, rfl, rfl, settled_ended _ _⟩)
  · exact .later (hnext .dotDot rfl) (.ok ⟨rfl, rfl, rfl, settled_ended _ _⟩)
  · next hdot hdotDot =>
    refine (follows_parseAxis hnext hdot hdotDot hend).then ?_
    rintro ⟨axis, before, r₁, h₁⟩ last₁ s₁ rest ⟨rfl, hopened, hnext, hend⟩
    rw [← hopened] at hnext
    refine (follows_parseTest hnext hend).then ?_
    rintro ⟨test, r₂, h₂⟩ last₂ s₂ rest ⟨rfl, rfl⟩
    refine (follows_parsePredicates s₁.opened).then ?_
    rintro ⟨predicates, r₃, h₃⟩ last₃ s₃ rest hleaves
    exact .ok (hopened ▸ hleaves)
  termination_by (ts.length, 6)

end

/-! The whole of the tokens. -/

theorem follows_parseTokens (ts : List Placed) : Follows 0 start ts (parseTokens ts)
    fun _ _ s rest => rest = [] ∧ s.isComplete = true := by
  unfold parseTokens
  split
  · next hts =>
    obtain rfl := List.isEmpty_iff.mp hts
    exact .ended rfl rfl
  · refine (follows_parseLevel .or (expects_operand [] ts)).then ?_
    rintro ⟨e, r, h⟩ last s rest ⟨rfl, hopened, hplace, hsettled⟩
    dsimp only
    split
    · next hrest =>
      refine .ok ⟨List.isEmpty_iff.mp hrest, ?_⟩
      rw [isComplete, hopened, hplace]
      rfl
    · next hrest =>
      cases rest with
      | nil => exact absurd rfl hrest
      | cons t us =>
        refine .here ?_ rfl
        obtain hnone | hclosing := next_of_settled hplace hsettled
        · exact hnone
        · rw [hclosing, hopened]
          cases t.token <;> rfl

theorem Reaches.run {Q : Nat → Progress → List Placed → Prop} {last : Nat} {s : Progress}
    {ts : List Placed} (h : Reaches Q last s ts) : ∃ used rest last' s',
      ts = used ++ rest ∧ s.run (tokens used) = some s' ∧ Q last' s' rest := by
  induction h with
  | @here last s ts h => exact ⟨[], ts, last, s, rfl, rfl, h⟩
  | @later last s s' t ts hs _ ih =>
      obtain ⟨used, rest, last', s'', rfl, hrun, hQ⟩ := ih
      refine ⟨t :: used, rest, last', s'', rfl, ?_, hQ⟩
      rw [tokens_cons, run_cons, hs]
      exact hrun

/-- A fault lies with the end, where all tokens can be taken, or with a token that cannot be. -/
theorem Strays.run {fault : Fault} {last : Nat} {s : Progress} {ts : List Placed}
    (h : Strays fault last s ts) :
    (∃ s', s.run (tokens ts) = some s' ∧ s'.isComplete = false ∧ fault.position =
      if s'.place.awaitsStep then some ((ts.getLast?.map (·.offset)).getD last) else none) ∨
    ∃ pre t post s', ts = pre ++ t :: post ∧ s.run (tokens pre) = some s' ∧
      s'.next t.token = none ∧ fault.position = some t.offset := by
  induction h with
  | @ended last s hs hp => exact .inl ⟨s, rfl, hs, hp⟩
  | @here last s t ts hs hp => exact .inr ⟨[], t, ts, s, rfl, rfl, hs, hp⟩
  | @later last s s' t ts hs _ ih =>
      have hcons (us : List Token) : s.run (t.token :: us) = s'.run us := by
        rw [run_cons, hs]
        rfl
      obtain ⟨s'', hrun, hcomplete, hp⟩ | ⟨pre, u, post, s'', rfl, hrun, hnone, hp⟩ := ih
      · refine .inl ⟨s'', (hcons _).trans hrun, hcomplete, ?_⟩
        rw [hp, List.getLast?_cons]
        cases ts.getLast? <;> rfl
      · exact .inr ⟨t :: pre, u, post, s'', rfl, (hcons _).trans hrun, hnone, hp⟩

/-- The tokens of an expression are those that can be taken to something complete. -/
theorem exists_parseTokens_eq_ok_iff {ts : List Placed} : (∃ e, parseTokens ts = .ok e) ↔
    ∃ s, start.run (tokens ts) = some s ∧ s.isComplete = true := by
  have hfollows := follows_parseTokens ts
  cases hparse : parseTokens ts with
  | ok e =>
      rw [hparse] at hfollows
      obtain ⟨used, rest, last', s', rfl, hrun, rfl, hcomplete⟩ := Reaches.run hfollows
      rw [List.append_nil]
      exact iff_of_true ⟨e, rfl⟩ ⟨s', hrun, hcomplete⟩
  | error fault =>
      rw [hparse] at hfollows
      refine iff_of_false (fun ⟨e, he⟩ => by cases he) ?_
      rintro ⟨s, hrun, hcomplete⟩
      obtain ⟨s', hrun', hcomplete', -⟩ | ⟨pre, t, post, s', rfl, hrun', hnone, -⟩ :=
        Strays.run hfollows
      · rw [hrun] at hrun'
        cases hrun'
        rw [hcomplete] at hcomplete'
        cases hcomplete'
      · rw [tokens_append, tokens_cons, run_append, hrun', Option.bind_some, run_cons, hnone] at hrun
        cases hrun

end Harvest.XPath
