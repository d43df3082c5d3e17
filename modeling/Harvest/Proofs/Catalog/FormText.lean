import Harvest.Proofs.Catalog.CanonicalText
import Harvest.Text.Letter

/-!
What the text of a query for a search form tells of it.

A text is a row of factors between blanks. A factor is a word, a group of alternatives in brackets,
each of them a row again, or the negation of a factor; only a row has no brackets. So a text does
not tell how conjunctions are nested, which makes no difference, and where a conjunction is negated
it tells that its first operand is. Apart from that it tells all: the words of a search have no
blanks and no brackets in them, and none of them is taken for the word between alternatives.
-/

namespace Harvest

open Harvest.Text

namespace Query

/-- A term that is a factor of its own: it does not begin like another factor does, and is not what
stands between alternatives. Letters and digits of any script make such words. -/
structure IsSearchWord (t : List Char) : Prop extends IsWord t where
  begun : ∃ c ∈ t.head?, c ≠ '-'
  notOr : t ≠ "OR".toList

theorem isSearchWord_of_alphanumeric {t : List Char} (hne : t ≠ [])
    (h : ∀ c ∈ t, isAsciiAlphanumeric c = true) (hor : t ≠ "OR".toList) : IsSearchWord t := by
  have hrange : ∀ c ∈ t, (65 ≤ c.toNat ∧ c.toNat ≤ 90 ∨ 97 ≤ c.toNat ∧ c.toNat ≤ 122) ∨
      48 ≤ c.toNat ∧ c.toNat ≤ 57 := by
    simpa [isAsciiAlphanumeric, isAsciiLetter, isAsciiUpper, isAsciiLower, isAsciiDigit] using h
  have hother {c e : Char} (hc : c ∈ t) (he : e.toNat < 48) : c ≠ e := by
    rintro rfl
    have := hrange c hc
    omega
  have hhead {c : Char} (hc : c ∈ t.head?) : c ∈ t := List.mem_of_mem_head? hc
  refine ⟨⟨fun c hc => ⟨?_, hother hc (by decide)⟩, fun c hc =>
    ⟨hother (hhead hc) (by decide), hother (hhead hc) (by decide)⟩⟩, ?_, hor⟩
  · have := hrange c hc
    simp [isBlank]
    omega
  · obtain ⟨c, t', rfl⟩ := List.exists_cons_of_ne_nil hne
    exact ⟨c, rfl, hother List.mem_cons_self (by decide)⟩

/-- Terms are such words, and groups have operands. -/
inductive Worded : Query → Prop
  | term {t : String} (ht : IsSearchWord t.toList) : Worded (.term t)
  | group {c : Connective} {q : Query} {qs : List Query} (hq : Worded q)
    (hqs : ∀ q ∈ qs, Worded q) : Worded (c.group (q :: qs))
  | not {q : Query} (hq : Worded q) : Worded (.not q)

/-- Only terms, disjunctions and negations of these are negated. -/
inductive NegatesNoConjunction : Query → Prop
  | term (t : String) : NegatesNoConjunction (.term t)
  | group {c : Connective} {qs : List Query} (hqs : ∀ q ∈ qs, NegatesNoConjunction q) :
    NegatesNoConjunction (c.group qs)
  | not {q : Query} (hq : NegatesNoConjunction q) (hsingle : ∀ qs, q ≠ .and qs) :
    NegatesNoConjunction (.not q)

/-- What stands between blanks. -/
inductive Factor
  | word (text : String)
  | group (alternatives : List (List Factor))
  | negated (factor : Factor)

mutual

/-- Whether the factor holds where the words with `v t` hold and no others. -/
def Factor.holds (v : String → Bool) (f : Factor) : Bool :=
  match f with
  | .word t => v t
  | .group rows => someRowHolds v rows
  | .negated f => !f.holds v

def rowHolds (v : String → Bool) (row : List Factor) : Bool :=
  match row with
  | [] => true
  | f :: fs => f.holds v && rowHolds v fs

def someRowHolds (v : String → Bool) (rows : List (List Factor)) : Bool :=
  match rows with
  | [] => false
  | row :: rows => rowHolds v row || someRowHolds v rows

end

/-- A hyphen before a row. -/
def negateFirst : List Factor → List Factor
  | [] => []
  | f :: fs => .negated f :: fs

mutual

def factors (q : Query) : List Factor :=
  match q with
  | .term t => [.word t]
  | .and operands => factorsOf operands
  | .or operands => [.group (rowsOf operands)]
  | .not operand => negateFirst operand.factors

def factorsOf (qs : List Query) : List Factor :=
  match qs with
  | [] => []
  | q :: qs => q.factors ++ factorsOf qs

def rowsOf (qs : List Query) : List (List Factor) :=
  match qs with
  | [] => []
  | q :: qs => q.factors :: rowsOf qs

end

mutual

/-- The text begins with the factor and goes on with the rest. -/
inductive Written : Factor → List Char → List Char → Prop
  | word {t : String} {s rest : List Char} (ht : IsSearchWord t.toList)
    (hs : s = t.toList ++ rest) : Written (.word t) s rest
  | group {rows : List (List Factor)} {s rest : List Char} (h : WrittenRows rows s (')' :: rest)) :
    Written (.group rows) ('(' :: s) rest
  | negated {f : Factor} {s rest : List Char} (h : Written f s rest) :
    Written (.negated f) ('-' :: s) rest

inductive WrittenRow : List Factor → List Char → List Char → Prop
  | last {f : Factor} {s rest : List Char} (h : Written f s rest) : WrittenRow [f] s rest
  | cons {f : Factor} {fs : List Factor} {s s' rest : List Char} (h : Written f s (' ' :: s'))
    (hrow : WrittenRow fs s' rest) : WrittenRow (f :: fs) s rest

inductive WrittenRows : List (List Factor) → List Char → List Char → Prop
  | last {row : List Factor} {s rest : List Char} (h : WrittenRow row s rest) :
    WrittenRows [row] s rest
  | cons {row : List Factor} {rows : List (List Factor)} {s s' rest : List Char}
    (h : WrittenRow row s (' ' :: 'O' :: 'R' :: ' ' :: s')) (hrows : WrittenRows rows s' rest) :
    WrittenRows (row :: rows) s rest

end

theorem WrittenRow.append {fs gs : List Factor} {s s' behind rest : List Char}
    (h : WrittenRow fs s behind) (hbehind : behind = ' ' :: s') (h' : WrittenRow gs s' rest) :
    WrittenRow (fs ++ gs) s rest := by
  match h with
  | .last h => exact .cons (hbehind ▸ h) h'
  | .cons h hrow => exact .cons h (hrow.append hbehind h')
  termination_by structural h

section Writing

variable {fs : List Factor} {s rest : List Char} {q : Query} {qs : List Query}

theorem WrittenRow.negateFirst (h : WrittenRow fs s rest) :
    WrittenRow (negateFirst fs) ('-' :: s) rest := by
  cases h with
  | last h => exact .last (.negated h)
  | cons h hrow => exact .cons (.negated h) hrow

/-- Operands are joined one after the other. -/
theorem toList_join_cons_cons (separator : String) (q q' : Query) (qs : List Query) :
    (join separator (formTexts (q :: q' :: qs))).toList ++ rest =
      q.formText.toList ++ (separator.toList ++
        ((join separator (formTexts (q' :: qs))).toList ++ rest)) := by
  have hcons : join separator (formTexts (q :: q' :: qs)) =
      q.formText ++ separator ++ join separator (formTexts (q' :: qs)) :=
    String.intercalate_cons_cons
  rw [hcons]
  simp

/-- The text of a query is written as its factors, whatever stands behind it. -/
def Spelt (q : Query) : Prop :=
  ∀ rest, WrittenRow q.factors (q.formText.toList ++ rest) rest

theorem writtenRow_operands (hq : q.Spelt) (hqs : ∀ q ∈ qs, q.Spelt) (rest : List Char) :
    WrittenRow (factorsOf (q :: qs)) ((join " " (formTexts (q :: qs))).toList ++ rest) rest := by
  induction qs generalizing q with
  | nil => simpa [factorsOf, formTexts, join] using hq rest
  | cons q' qs ih =>
      obtain ⟨hq', hqs⟩ := List.forall_mem_cons.mp hqs
      rw [toList_join_cons_cons]
      exact (hq _).append rfl (ih hq' hqs)

theorem writtenRows_operands (hq : q.Spelt) (hqs : ∀ q ∈ qs, q.Spelt) (rest : List Char) :
    WrittenRows (rowsOf (q :: qs)) ((join " OR " (formTexts (q :: qs))).toList ++ rest) rest := by
  induction qs generalizing q with
  | nil => simpa [rowsOf, formTexts, join] using .last (hq rest)
  | cons q' qs ih =>
      obtain ⟨hq', hqs⟩ := List.forall_mem_cons.mp hqs
      rw [toList_join_cons_cons]
      exact .cons (hq _) (ih hq' hqs)

theorem formText_word {t : String} (ht : IsWord t.toList) : (Query.term t).formText = t := by
  have hblank : t.toList.any isBlank = false :=
    List.any_eq_false.mpr fun c hc => Bool.not_eq_true _ ▸ (ht.unbroken c hc).1
  rw [formText, quoteTerm, hblank]
  rfl

theorem Worded.spelt (h : Worded q) : q.Spelt := by
  induction h with
  | @term t ht =>
      intro rest
      rw [formText_word ht.toIsWord]
      exact .last (.word ht rfl)
  | @group c q qs hq hqs ih ihs =>
      intro rest
      cases c with
      | and => exact writtenRow_operands ih ihs rest
      | or =>
          have htext : (Query.or (q :: qs)).formText.toList ++ rest =
              '(' :: ((join " OR " (formTexts (q :: qs))).toList ++ ')' :: rest) := by
            simp [formText]
          rw [Connective.group, htext]
          exact .last (.group (writtenRows_operands ih ihs _))
  | @not q hq ih =>
      intro rest
      have htext : (Query.not q).formText.toList ++ rest = '-' :: (q.formText.toList ++ rest) := by
        simp [formText]
      rw [htext, factors]
      exact (ih rest).negateFirst

end Writing

section Reading

def Breaks (rest : List Char) : Prop := ∃ e more, rest = e :: more ∧ isBreak e = true

def EndsRow (rest : List Char) : Prop :=
  (∃ more, rest = ')' :: more) ∨ ∃ more, rest = ' ' :: 'O' :: 'R' :: ' ' :: more

variable {rest rest' s more : List Char}

theorem breaks_blank (s : List Char) : Breaks (' ' :: s) := ⟨' ', s, rfl, rfl⟩

theorem EndsRow.breaks (h : EndsRow rest) : Breaks rest := by
  obtain ⟨more, rfl⟩ | ⟨more, rfl⟩ := h
  · exact ⟨')', more, rfl, rfl⟩
  · exact breaks_blank _

/-- Neither a negation nor a group begins like a word does. -/
theorem IsSearchWord.first_append {t : List Char} (ht : IsSearchWord t) {e : Char}
    (h : e :: more = t ++ rest) : e ≠ '(' ∧ e ≠ '-' := by
  obtain ⟨c, hc, hhyphen⟩ := ht.begun
  obtain ⟨t', rfl⟩ := List.head?_eq_some_iff.mp hc
  obtain ⟨rfl, -⟩ := List.cons.inj h
  exact ⟨(ht.toIsWord.first e rfl).1, hhyphen⟩

/-- The word between alternatives is no factor. -/
theorem not_written_or {f : Factor} (hrest : Breaks rest) :
    ¬ Written f ('O' :: 'R' :: ' ' :: more) rest := by
  intro h
  cases h with
  | @word t _ _ ht hs =>
      have hor : IsWord "OR".toList := by decide
      obtain ⟨hsame, -⟩ := eq_of_append_eq isBreak hor.isBreak_eq_false
        ht.toIsWord.isBreak_eq_false (breaks_blank more) hrest hs
      exact ht.notOr hsame.symm

theorem not_writtenRow_or {fs : List Factor} (hrest : EndsRow rest) :
    ¬ WrittenRow fs ('O' :: 'R' :: ' ' :: more) rest := by
  intro h
  cases h with
  | last h => exact not_written_or hrest.breaks h
  | cons h hrow => exact not_written_or (breaks_blank _) h

/-- A row that has ended does not go on. -/
theorem not_endsRow_blank {fs : List Factor} (hrow : WrittenRow fs s rest) (hrest : EndsRow rest) :
    ¬ EndsRow (' ' :: s) := by
  rintro (⟨more, hmore⟩ | ⟨more, hmore⟩)
  · cases (List.cons.inj hmore).1
  · rw [(List.cons.inj hmore).2] at hrow
    exact not_writtenRow_or hrest hrow

end Reading

mutual

/-- A text tells its first factor, and where this ends. -/
theorem Written.unique {f g : Factor} {s rest rest' : List Char} (h : Written f s rest)
    (h' : Written g s rest') (hrest : Breaks rest) (hrest' : Breaks rest') :
    f = g ∧ rest = rest' := by
  match h with
  | .word ht hs =>
      cases h' with
      | word ht' hs' =>
          obtain ⟨hsame, hbehind⟩ := eq_of_append_eq isBreak ht.toIsWord.isBreak_eq_false
            ht'.toIsWord.isBreak_eq_false hrest hrest' (hs.symm.trans hs')
          exact ⟨congrArg Factor.word (String.toList_inj.mp hsame), hbehind⟩
      | group h' => exact absurd rfl (ht.first_append hs).1
      | negated h' => exact absurd rfl (ht.first_append hs).2
  | .group h =>
      cases h' with
      | word ht' hs' => exact absurd rfl (ht'.first_append hs').1
      | group h' =>
          obtain ⟨hrows, hbehind⟩ := h.unique h' ⟨_, rfl⟩ ⟨_, rfl⟩
          exact ⟨congrArg Factor.group hrows, (List.cons.inj hbehind).2⟩
  | .negated h =>
      cases h' with
      | word ht' hs' => exact absurd rfl (ht'.first_append hs').2
      | negated h' =>
          obtain ⟨hfactor, hbehind⟩ := h.unique h' hrest hrest'
          exact ⟨congrArg Factor.negated hfactor, hbehind⟩
  termination_by structural h

theorem WrittenRow.unique {fs gs : List Factor} {s rest rest' : List Char}
    (h : WrittenRow fs s rest) (h' : WrittenRow gs s rest') (hrest : EndsRow rest)
    (hrest' : EndsRow rest') : fs = gs ∧ rest = rest' := by
  match h with
  | .last h =>
      cases h' with
      | last h' =>
          obtain ⟨rfl, hbehind⟩ := h.unique h' hrest.breaks hrest'.breaks
          exact ⟨rfl, hbehind⟩
      | cons h' hrow' =>
          obtain ⟨-, rfl⟩ := h.unique h' hrest.breaks (breaks_blank _)
          exact absurd hrest (not_endsRow_blank hrow' hrest')
  | .cons h hrow =>
      cases h' with
      | last h' =>
          obtain ⟨-, rfl⟩ := h.unique h' (breaks_blank _) hrest'.breaks
          exact absurd hrest' (not_endsRow_blank hrow hrest)
      | cons h' hrow' =>
          obtain ⟨rfl, hbehind⟩ := h.unique h' (breaks_blank _) (breaks_blank _)
          obtain rfl := (List.cons.inj hbehind).2
          obtain ⟨rfl, hrow⟩ := hrow.unique hrow' hrest hrest'
          exact ⟨rfl, hrow⟩
  termination_by structural h

theorem WrittenRows.unique {rows rows' : List (List Factor)} {s rest rest' : List Char}
    (h : WrittenRows rows s rest) (h' : WrittenRows rows' s rest')
    (hrest : ∃ more, rest = ')' :: more) (hrest' : ∃ more, rest' = ')' :: more) :
    rows = rows' ∧ rest = rest' := by
  obtain ⟨more, hmore⟩ := hrest
  obtain ⟨more', hmore'⟩ := hrest'
  match h with
  | .last h =>
      cases h' with
      | last h' =>
          obtain ⟨rfl, hbehind⟩ := h.unique h' (.inl ⟨_, hmore⟩) (.inl ⟨_, hmore'⟩)
          exact ⟨rfl, hbehind⟩
      | cons h' hrows' =>
          obtain ⟨-, hbehind⟩ := h.unique h' (.inl ⟨_, hmore⟩) (.inr ⟨_, rfl⟩)
          cases hmore.symm.trans hbehind
  | .cons h hrows =>
      cases h' with
      | last h' =>
          obtain ⟨-, hbehind⟩ := h.unique h' (.inr ⟨_, rfl⟩) (.inl ⟨_, hmore'⟩)
          cases hbehind.trans hmore'
      | cons h' hrows' =>
          obtain ⟨rfl, hbehind⟩ := h.unique h' (.inr ⟨_, rfl⟩) (.inr ⟨_, rfl⟩)
          cases hbehind
          obtain ⟨rfl, hbehind⟩ := hrows.unique hrows' ⟨_, hmore⟩ ⟨_, hmore'⟩
          exact ⟨rfl, hbehind⟩
  termination_by structural h

end

/-- Queries with the same text have the same factors. -/
theorem Worded.factors_eq {p q : Query} (hp : Worded p) (hq : Worded q)
    (h : p.formText = q.formText) : p.factors = q.factors := by
  -- The texts are read up to a bracket behind them.
  have hpq := hq.spelt [')']
  rw [← h] at hpq
  exact ((hp.spelt [')']).unique hpq (.inl ⟨_, rfl⟩) (.inl ⟨_, rfl⟩)).1

section Meaning

variable {v : String → Bool} {q : Query} {qs : List Query}

theorem rowHolds_append (fs gs : List Factor) :
    rowHolds v (fs ++ gs) = (rowHolds v fs && rowHolds v gs) := by
  induction fs with
  | nil => rfl
  | cons f fs ih => rw [List.cons_append, rowHolds, rowHolds, ih, Bool.and_assoc]

theorem rowHolds_factorsOf (h : ∀ q ∈ qs, rowHolds v q.factors = q.holds v) :
    rowHolds v (factorsOf qs) = allHold v qs := by
  induction qs with
  | nil => rfl
  | cons q qs ih =>
      obtain ⟨hq, hqs⟩ := List.forall_mem_cons.mp h
      rw [factorsOf, rowHolds_append, hq, ih hqs, allHold]

theorem someRowHolds_rowsOf (h : ∀ q ∈ qs, rowHolds v q.factors = q.holds v) :
    someRowHolds v (rowsOf qs) = anyHolds v qs := by
  induction qs with
  | nil => rfl
  | cons q qs ih =>
      obtain ⟨hq, hqs⟩ := List.forall_mem_cons.mp h
      rw [rowsOf, someRowHolds, hq, ih hqs, anyHolds]

/-- A query that is no conjunction is a single factor. -/
theorem NegatesNoConjunction.factors_eq_singleton (h : NegatesNoConjunction q)
    (hsingle : ∀ qs, q ≠ .and qs) : ∃ f, q.factors = [f] := by
  induction h with
  | term t => exact ⟨.word t, rfl⟩
  | @group c qs hqs ih =>
      cases c with
      | and => exact absurd rfl (hsingle qs)
      | or => exact ⟨.group (rowsOf qs), rfl⟩
  | @not q hq hoperand ih =>
      obtain ⟨f, hf⟩ := ih hoperand
      exact ⟨.negated f, by rw [factors, hf]; rfl⟩

/-- The factors of a query say what it says. -/
theorem NegatesNoConjunction.rowHolds_factors (h : NegatesNoConjunction q) :
    rowHolds v q.factors = q.holds v := by
  induction h with
  | term t => exact Bool.and_true _
  | @group c qs hqs ih =>
      cases c with
      | and => exact rowHolds_factorsOf ih
      | or => exact (Bool.and_true _).trans (someRowHolds_rowsOf ih)
  | @not q hq hoperand ih =>
      obtain ⟨f, hf⟩ := hq.factors_eq_singleton hoperand
      rw [hf] at ih
      have hfactor : f.holds v = q.holds v := (Bool.and_true _).symm.trans ih
      rw [factors, hf, holds, ← hfactor]
      exact Bool.and_true _

end Meaning

/-- Queries over words that negate no conjunction hold in the same cases if they have the same text
for a search form. -/
theorem equivalent_of_same_formText (p q : Query) (hp : Worded p) (hq : Worded q)
    (hp' : NegatesNoConjunction p) (hq' : NegatesNoConjunction q) (h : p.formText = q.formText) :
    Equivalent p q := by
  intro v
  calc
    p.holds v = rowHolds v p.factors := hp'.rowHolds_factors.symm
    _ = rowHolds v q.factors := by rw [hp.factors_eq hq h]
    _ = q.holds v := hq'.rowHolds_factors

theorem worded_of_alphanumeric {t : String} (hne : t.toList ≠ [])
    (h : t.toList.all isAsciiAlphanumeric = true) (hor : t ≠ "OR") : Worded (.term t) :=
  .term (isSearchWord_of_alphanumeric hne (List.all_eq_true.mp h)
    fun hsame => hor (String.toList_inj.mp hsame))

theorem Worded.pair {p q : Query} (hp : Worded p) (c : Connective) (hq : Worded q) :
    Worded (c.group [p, q]) :=
  .group hp (by simpa using hq)

theorem NegatesNoConjunction.pair {p q : Query} (hp : NegatesNoConjunction p) (c : Connective)
    (hq : NegatesNoConjunction q) : NegatesNoConjunction (c.group [p, q]) :=
  .group (by simpa using ⟨hp, hq⟩)

/-- A conjunction of three, nested in two ways, with a disjunction that is negated. -/
theorem equivalent_of_same_formText_nested :
    let a := Query.term "a"
    let b := Query.not (.or [.term "OR2", .not (.term "b")])
    let c := Query.term "2024"
    let p := Query.and [.and [a, b], c]
    let q := Query.and [a, .and [b, c]]
    Worded p ∧ Worded q ∧ NegatesNoConjunction p ∧ NegatesNoConjunction q ∧
      p.formText = q.formText ∧ Equivalent p q := by
  intro a b c p q
  have ha : Worded a := worded_of_alphanumeric (by decide) (by decide) (by decide)
  have hb : Worded b :=
    .not ((worded_of_alphanumeric (by decide) (by decide) (by decide)).pair .or
      (.not (worded_of_alphanumeric (by decide) (by decide) (by decide))))
  have hc : Worded c := worded_of_alphanumeric (by decide) (by decide) (by decide)
  have hb' : NegatesNoConjunction b :=
    .not ((NegatesNoConjunction.term _).pair .or (.not (.term _) (by simp))) (by simp)
  have hp : Worded p := (ha.pair .and hb).pair .and hc
  have hq : Worded q := ha.pair .and (hb.pair .and hc)
  have hp' : NegatesNoConjunction p :=
    ((NegatesNoConjunction.term _).pair .and hb').pair .and (.term _)
  have hq' : NegatesNoConjunction q :=
    (NegatesNoConjunction.term _).pair .and (hb'.pair .and (.term _))
  exact ⟨hp, hq, hp', hq', by decide, equivalent_of_same_formText p q hp hq hp' hq' (by decide)⟩

/-- A negated conjunction has the text of a conjunction whose first operand is negated. -/
theorem formText_not_and (q : Query) (qs : List Query) :
    (Query.not (.and (q :: qs))).formText = (Query.and (.not q :: qs)).formText := by
  cases qs with
  | nil => simp [formText, formTexts, join]
  | cons q' qs => simp [formText, formTexts, join, String.append_assoc]

/-- One of the two excludes every record with the first word, the other one does not. -/
theorem negated_conjunction_shares_formText :
    let p := Query.not (.and [.term "a", .term "b"])
    let q := Query.and [.not (.term "a"), .term "b"]
    Worded p ∧ Worded q ∧ p.formText = q.formText ∧ ¬ Equivalent p q := by
  intro p q
  have ha : Worded (.term "a") := worded_of_alphanumeric (by decide) (by decide) (by decide)
  have hb : Worded (.term "b") := worded_of_alphanumeric (by decide) (by decide) (by decide)
  refine ⟨.not (ha.pair .and hb), (Worded.not ha).pair .and hb, formText_not_and _ _, fun h => ?_⟩
  cases h fun _ => false

end Query

end Harvest
