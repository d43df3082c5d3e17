import Harvest.Proofs.XPath.Follow

/-!
How far an expression has come.

Whether tokens can still become an expression does not depend on the tree that they stand for. The
place that has been reached and the brackets that are open around it say which tokens can come next;
precedence plays no part in this. Everything that has been begun can be ended, so what has been
taken token by token is always the beginning of an expression.
-/

namespace Harvest.XPath

/-- What is still to be closed: parentheses around an expression or around the arguments of a call,
or the bracket of a predicate. -/
inductive Bracket
  | group | call | predicate

def Bracket.closer : Bracket → Token
  | .group | .call => .closeParen
  | .predicate => .closeBracket

inductive Place
  /-- An expression. -/
  | operand
  /-- A path, which bears no minus sign. -/
  | path
  /-- A step or nothing, behind the slash of the root. -/
  | root
  | step
  /-- A node test. -/
  | test
  /-- The opening parenthesis of a node type, its argument, the closing one. -/
  | typeOpen | typeArgument | typeClose
  /-- The opening parenthesis of a call. -/
  | callOpen
  /-- The first argument of a call or its end. -/
  | arguments
  /-- What goes on or comes behind something complete that predicates can narrow. -/
  | narrowable
  /-- The same where they cannot. -/
  | ended

namespace Place

def endsStep : Place → Bool
  | .narrowable | .ended => true
  | _ => false

def endsPath : Place → Bool
  | .root => true
  | place => place.endsStep

def awaitsStep : Place → Bool
  | .step | .test => true
  | _ => false

/-- A shortest way to complete what has been begun last. -/
def completion : Place → List Token
  | .operand | .path | .step | .arguments => [.dot]
  | .test => [.star]
  | .typeOpen | .callOpen => [.openParen, .closeParen]
  | .typeArgument | .typeClose => [.closeParen]
  | .root | .narrowable | .ended => []

end Place

structure Progress where
  place : Place
  opened : List Bracket

namespace Progress

def start : Progress := ⟨.operand, []⟩

section Next

variable (opened : List Bracket)

def test? : Token → Option Progress
  | .star | .name _ => some ⟨.narrowable, opened⟩
  | .nodeType _ => some ⟨.typeOpen, opened⟩
  | _ => none

def step? : Token → Option Progress
  | .dot | .dotDot => some ⟨.ended, opened⟩
  | .at => some ⟨.test, opened⟩
  | .axisName name => if (Axis.ofName? name).isSome then some ⟨.test, opened⟩ else none
  | t => test? opened t

def path? : Token → Option Progress
  | .slash => some ⟨.root, opened⟩
  | .doubleSlash => some ⟨.step, opened⟩
  | .literal _ | .number _ => some ⟨.narrowable, opened⟩
  | .openParen => some ⟨.operand, .group :: opened⟩
  | .functionName name =>
    if functionNames.contains name then some ⟨.callOpen, opened⟩ else none
  | t => step? opened t

def expression? : Token → Option Progress
  | .minus => some ⟨.operand, opened⟩
  | t => path? opened t

def closing? : Token → Option Progress
  | .comma =>
    match opened with
    | .call :: _ => some ⟨.operand, opened⟩
    | _ => none
  | .closeParen =>
    match opened with
    | .group :: outer | .call :: outer => some ⟨.narrowable, outer⟩
    | _ => none
  | .closeBracket =>
    match opened with
    | .predicate :: outer => some ⟨.narrowable, outer⟩
    | _ => none
  | _ => none

def behindPath? : Token → Option Progress
  | .pipe => some ⟨.path, opened⟩
  | .or | .and | .eq | .ne | .lt | .le | .gt | .ge | .plus | .minus | .times | .div | .mod =>
    some ⟨.operand, opened⟩
  | t => closing? opened t

def behindStep? : Token → Option Progress
  | .slash | .doubleSlash => some ⟨.step, opened⟩
  | t => behindPath? opened t

def narrowing? : Token → Option Progress
  | .openBracket => some ⟨.operand, .predicate :: opened⟩
  | t => behindStep? opened t

def typeOpen? : Token → Option Progress
  | .openParen => some ⟨.typeArgument, opened⟩
  | _ => none

def typeClose? : Token → Option Progress
  | .closeParen => some ⟨.narrowable, opened⟩
  | _ => none

def typeArgument? : Token → Option Progress
  | .literal _ => some ⟨.typeClose, opened⟩
  | t => typeClose? opened t

def callOpen? : Token → Option Progress
  | .openParen => some ⟨.arguments, .call :: opened⟩
  | _ => none

def arguments? : Token → Option Progress
  | .closeParen => some ⟨.narrowable, opened.tail⟩
  | t => expression? opened t

end Next

/-- Takes a token; none where it cannot come. -/
def next (s : Progress) (t : Token) : Option Progress :=
  match s.place with
  | .operand => expression? s.opened t
  | .path => path? s.opened t
  | .root => if t.beginsStep then step? s.opened t else behindPath? s.opened t
  | .step => step? s.opened t
  | .test => test? s.opened t
  | .typeOpen => typeOpen? s.opened t
  | .typeArgument => typeArgument? s.opened t
  | .typeClose => typeClose? s.opened t
  | .callOpen => callOpen? s.opened t
  | .arguments => arguments? s.opened t
  | .narrowable => narrowing? s.opened t
  | .ended => behindStep? s.opened t

def run (s : Progress) (ts : List Token) : Option Progress := ts.foldlM next s

def isComplete (s : Progress) : Bool := s.opened.isEmpty && s.place.endsPath

variable {s s' : Progress} {t : Token} {ts us : List Token}

theorem run_cons (s : Progress) (t : Token) (ts : List Token) :
    s.run (t :: ts) = (s.next t).bind (·.run ts) := rfl

theorem run_append (s : Progress) (ts us : List Token) :
    s.run (ts ++ us) = (s.run ts).bind (·.run us) :=
  List.foldlM_append ..

theorem run_singleton (s : Progress) (t : Token) : s.run [t] = s.next t := by
  rw [run_cons]
  cases s.next t <;> rfl

theorem run_append_singleton_eq_some {ts : List Token} {t : Token} :
    s.run (ts ++ [t]) = some s' ↔ ∃ r, s.run ts = some r ∧ r.next t = some s' := by
  simp only [run_append, run_singleton, Option.bind_eq_some_iff]

/-! Everything can be ended. -/

def completion (s : Progress) : List Token := s.place.completion ++ s.opened.map Bracket.closer

/-- What has been begun last is ended without regard to the brackets around it. -/
theorem exists_run_completion_eq (s : Progress) :
    ∃ place : Place, place.endsPath = true ∧
      s.run s.completion = (Progress.mk place s.opened).run (s.opened.map Bracket.closer) := by
  obtain ⟨place, opened⟩ := s
  cases place with
  | operand | path | step | arguments | ended => exact ⟨.ended, rfl, rfl⟩
  | test | typeOpen | typeArgument | typeClose | callOpen | narrowable =>
      exact ⟨.narrowable, rfl, rfl⟩
  | root => exact ⟨.root, rfl, rfl⟩

theorem next_closer {place : Place} (h : place.endsPath = true) (b : Bracket)
    (opened : List Bracket) :
    (Progress.mk place (b :: opened)).next b.closer = some ⟨.narrowable, opened⟩ := by
  cases place with
  | root | narrowable | ended => cases b <;> rfl
  | _ => cases h

theorem exists_run_closers {place : Place} (h : place.endsPath = true) (opened : List Bracket) :
    ∃ s, (Progress.mk place opened).run (opened.map Bracket.closer) = some s ∧
      s.isComplete = true := by
  induction opened generalizing place with
  | nil => exact ⟨⟨place, []⟩, rfl, h⟩
  | cons b opened ih =>
      obtain ⟨s, hs, hcomplete⟩ := @ih .narrowable rfl
      refine ⟨s, ?_, hcomplete⟩
      rw [List.map_cons, run_cons, next_closer h]
      exact hs

theorem exists_run_completion (s : Progress) :
    ∃ s', s.run s.completion = some s' ∧ s'.isComplete = true := by
  obtain ⟨place, hplace, hrun⟩ := s.exists_run_completion_eq
  obtain ⟨s', hs', hcomplete⟩ := exists_run_closers hplace s.opened
  exact ⟨s', hrun.trans hs', hcomplete⟩

/-! The token that came last tells the place. -/

def placesBehind : Token → List Place
  | .dot | .dotDot => [.ended]
  | .star | .name _ | .number _ | .closeParen | .closeBracket => [.narrowable]
  | .literal _ => [.narrowable, .typeClose]
  | .at | .axisName _ => [.test]
  | .nodeType _ => [.typeOpen]
  | .functionName _ => [.callOpen]
  | .slash => [.root, .step]
  | .doubleSlash => [.step]
  | .openParen => [.operand, .typeArgument, .arguments]
  | .pipe => [.path]
  | _ => [.operand]

section PlacesBehind

variable {opened : List Bracket}

theorem mem_of_test? (h : test? opened t = some s) : s.place ∈ placesBehind t := by
  unfold test? at h
  split at h <;> cases h <;> exact List.mem_cons_self

theorem mem_of_step? (h : step? opened t = some s) : s.place ∈ placesBehind t := by
  unfold step? at h
  split at h
  · cases h
    exact List.mem_cons_self
  · cases h
    exact List.mem_cons_self
  · cases h
    exact List.mem_cons_self
  · split at h <;> cases h
    exact List.mem_cons_self
  · exact mem_of_test? h

theorem mem_of_path? (h : path? opened t = some s) : s.place ∈ placesBehind t := by
  unfold path? at h
  split at h
  all_goals try (cases h; exact List.mem_cons_self)
  · split at h <;> cases h
    exact List.mem_cons_self
  · exact mem_of_step? h

theorem mem_of_expression? (h : expression? opened t = some s) : s.place ∈ placesBehind t := by
  unfold expression? at h
  split at h
  · cases h
    exact List.mem_cons_self
  · exact mem_of_path? h

theorem mem_of_closing? (h : closing? opened t = some s) : s.place ∈ placesBehind t := by
  unfold closing? at h
  split at h
  iterate 3
    · split at h <;> cases h
      all_goals exact List.mem_cons_self
  · cases h

theorem mem_of_behindPath? (h : behindPath? opened t = some s) : s.place ∈ placesBehind t := by
  unfold behindPath? at h
  split at h
  all_goals try (cases h; exact List.mem_cons_self)
  exact mem_of_closing? h

theorem mem_of_behindStep? (h : behindStep? opened t = some s) : s.place ∈ placesBehind t := by
  unfold behindStep? at h
  split at h
  · cases h
    exact List.mem_cons_of_mem _ List.mem_cons_self
  · cases h
    exact List.mem_cons_self
  · exact mem_of_behindPath? h

theorem mem_of_typeClose? (h : typeClose? opened t = some s) : s.place ∈ placesBehind t := by
  unfold typeClose? at h
  split at h <;> cases h
  exact List.mem_cons_self

end PlacesBehind

theorem mem_placesBehind (h : s.next t = some s') : s'.place ∈ placesBehind t := by
  unfold next at h
  split at h
  · exact mem_of_expression? h
  · exact mem_of_path? h
  · split at h
    · exact mem_of_step? h
    · exact mem_of_behindPath? h
  · exact mem_of_step? h
  · exact mem_of_test? h
  · unfold typeOpen? at h
    split at h <;> cases h
    exact List.mem_cons_of_mem _ List.mem_cons_self
  · unfold typeArgument? at h
    split at h
    · cases h
      exact List.mem_cons_of_mem _ List.mem_cons_self
    · exact mem_of_typeClose? h
  · exact mem_of_typeClose? h
  · unfold callOpen? at h
    split at h <;> cases h
    exact List.mem_cons_of_mem _ (List.mem_cons_of_mem _ List.mem_cons_self)
  · unfold arguments? at h
    split at h
    · cases h
      exact List.mem_cons_self
    · exact mem_of_expression? h
  · unfold narrowing? at h
    split at h
    · cases h
      exact List.mem_cons_self
    · exact mem_of_behindStep? h
  · exact mem_of_behindStep? h

theorem mem_placesBehind_getLast? {r : Progress} (h : r.run ts = some s) :
    ∀ t ∈ ts.getLast?, s.place ∈ placesBehind t := by
  intro t ht
  obtain ⟨ts, rfl⟩ := List.getLast?_eq_some_iff.mp ht
  obtain ⟨r', -, hnext⟩ := run_append_singleton_eq_some.mp h
  exact mem_placesBehind hnext

theorem endsOperand_of_endsStep {place : Place} (h : place ∈ placesBehind t)
    (hplace : place.endsStep = true) : t.endsOperand = true := by
  revert place
  cases t <;> simp [placesBehind, Place.endsStep, Token.endsOperand]

/-- A path that begins follows no operand. -/
theorem endsOperand_of_next_slash (hmem : s.place ∈ placesBehind t)
    (h : s.next .slash = some s') : s.place.endsStep = t.endsOperand := by
  obtain ⟨place, opened⟩ := s
  cases place with
  | narrowable | ended => exact (endsOperand_of_endsStep hmem rfl).symm
  | operand | path | arguments =>
      cases t <;> first | rfl | (simp [placesBehind] at hmem)
  | _ => cases h

theorem awaitsStep_of_next_slash (h : s.next .slash = some s') :
    s'.place.awaitsStep = s.place.endsStep := by
  obtain ⟨place, opened⟩ := s
  cases place <;> cases h <;> rfl

end Progress

/-- Whether nothing but a step or its node test can follow: behind a double slash, an at sign or an
axis, and behind a slash between steps. -/
def awaitsStep (ts : List Token) : Bool :=
  match ts.getLast? with
  | some .doubleSlash | some .at | some (.axisName _) => true
  | some .slash => ts.dropLast.getLast?.any Token.endsOperand
  | _ => false

namespace Progress

variable {s s' : Progress} {t : Token} {ts : List Token}

/-- Before a slash the last token tells whether a step has ended. -/
theorem endsStep_of_run (h : start.run ts = some s) (hnext : s.next .slash = some s') :
    s.place.endsStep = ts.getLast?.any Token.endsOperand := by
  obtain rfl | ⟨ts, t, rfl⟩ := ts.eq_nil_or_concat
  · cases h
    rfl
  · rw [List.concat_eq_append] at h ⊢
    rw [List.getLast?_concat]
    exact endsOperand_of_next_slash (mem_placesBehind_getLast? h t List.getLast?_concat) hnext

theorem awaitsStep_of_run (h : start.run ts = some s) :
    s.place.awaitsStep = XPath.awaitsStep ts := by
  obtain rfl | ⟨ts, t, rfl⟩ := ts.eq_nil_or_concat
  · cases h
    rfl
  · rw [List.concat_eq_append] at h ⊢
    obtain ⟨r, hr, hnext⟩ := run_append_singleton_eq_some.mp h
    have hmem := mem_placesBehind hnext
    rw [XPath.awaitsStep, List.getLast?_concat, List.dropLast_concat]
    cases t with
    | slash => exact (awaitsStep_of_next_slash hnext).trans (endsStep_of_run hr hnext)
    | openParen =>
        obtain hplace | hplace | hplace := by simpa [placesBehind] using hmem
        all_goals rw [hplace]; rfl
    | literal =>
        obtain hplace | hplace := by simpa [placesBehind] using hmem
        all_goals rw [hplace]; rfl
    | _ =>
        have hplace := List.mem_singleton.mp hmem
        rw [hplace]
        rfl

end Progress

end Harvest.XPath
