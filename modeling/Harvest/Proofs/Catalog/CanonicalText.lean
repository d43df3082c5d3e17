import Harvest.Proofs.Catalog.NormalForm
import Mathlib.Data.List.Forall2

/-!
What the canonical text of a query tells of it.

The text writes a term as it is, or between quotes if it holds a blank, and nothing in it is
escaped. A query is legible if its terms cannot be taken for anything else in the text, and if each
conjunction and each disjunction has an operand. Two legible queries with one text are equivalent:
the texts can be followed side by side, and only the connective of a single operand is not told.

The word NOT stands for a negation or for a term. Two readings that take one of these words in
different ways are out of step from there on: one of them has come to the end of an operand where
the other one is still to begin it. A further word may change the roles, but no text ends for both.
-/

namespace Harvest

open Harvest.Text

namespace Query

def isBreak (c : Char) : Bool := c == ' ' || c == ')'

/-- A term without a blank that does not begin like a group or a phrase and holds no end of a
group. -/
structure IsWord (t : List Char) : Prop where
  unbroken : ∀ c ∈ t, isBlank c = false ∧ c ≠ ')'
  first : ∀ c ∈ t.head?, c ≠ '(' ∧ c ≠ '"'

/-- A term with a blank that holds no quotes. -/
structure IsPhrase (t : List Char) : Prop where
  blank : t.any isBlank = true
  unquoted : ∀ c ∈ t, c ≠ '"'

instance (t : List Char) : Decidable (IsWord t) :=
  decidable_of_iff ((t.all fun c => !isBlank c && c != ')') = true ∧
      (t.head?.all fun c => c != '(' && c != '"') = true)
    ⟨fun h => ⟨by simpa using h.1, by simpa [Option.all_eq_true] using h.2⟩,
      fun h => ⟨by simpa using h.unbroken, by simpa [Option.all_eq_true] using h.first⟩⟩

instance (t : List Char) : Decidable (IsPhrase t) :=
  decidable_of_iff (t.any isBlank = true ∧ (t.all fun c => c != '"') = true)
    ⟨fun h => ⟨h.1, by simpa using h.2⟩, fun h => ⟨h.blank, by simpa using h.unquoted⟩⟩

inductive Connective
  | and
  | or
  deriving DecidableEq

namespace Connective

def word : Connective → String
  | .and => "AND"
  | .or => "OR"

theorem isWord_word (c : Connective) : IsWord c.word.toList := by
  cases c <;> decide

def group : Connective → List Query → Query
  | .and => .and
  | .or => .or

end Connective

/-- Terms that stand out in a text, and groups that are not empty. -/
inductive Legible : Query → Prop
  | word {t : String} (ht : IsWord t.toList) : Legible (.term t)
  | phrase {t : String} (ht : IsPhrase t.toList) : Legible (.term t)
  | group {c : Connective} {q : Query} {qs : List Query} (hq : Legible q)
    (hqs : ∀ q ∈ qs, Legible q) : Legible (c.group (q :: qs))
  | not {q : Query} (hq : Legible q) : Legible (.not q)

def Equivalent (p q : Query) : Prop := ∀ v, p.holds v = q.holds v

/-- The text behind the first operand of a group: the other operands, the end of the group and what
comes after it. -/
def behind (c : Connective) (rest : List Char) : List Query → List Char
  | [] => ')' :: rest
  | q :: qs => ' ' :: (c.word.toList ++ ' ' :: (q.text.toList ++ behind c rest qs))

section Texts

variable {c c' : Connective} {rest rest' : List Char} {q : Query} {qs : List Query}

theorem toList_join (c : Connective) (rest : List Char) (q : Query) (qs : List Query) :
    (join (" " ++ c.word ++ " ") (texts (q :: qs))).toList ++ ')' :: rest =
      q.text.toList ++ behind c rest qs := by
  induction qs generalizing q with
  | nil => simp [join, texts, behind]
  | cons q' qs ih =>
      have hcons : join (" " ++ c.word ++ " ") (texts (q :: q' :: qs)) =
          q.text ++ (" " ++ c.word ++ " ") ++ join (" " ++ c.word ++ " ") (texts (q' :: qs)) :=
        String.intercalate_cons_cons
      rw [hcons, behind, ← ih]
      simp

/-- A group is written from its first operand on. -/
theorem toList_group (c : Connective) (rest : List Char) (q : Query) (qs : List Query) :
    (c.group (q :: qs)).text.toList ++ rest = '(' :: (q.text.toList ++ behind c rest qs) := by
  rw [← toList_join]
  cases c with
  | and => simp [Connective.group, Connective.word, text]
  | or => simp [Connective.group, Connective.word, text]

theorem toList_not (q : Query) :
    (Query.not q).text.toList = "NOT".toList ++ ' ' :: q.text.toList := by
  simp [text]

theorem IsWord.toList_text {t : String} (ht : IsWord t.toList) :
    (Query.term t).text.toList = t.toList := by
  have hblank : t.toList.any isBlank = false :=
    List.any_eq_false.mpr fun c hc => Bool.not_eq_true _ ▸ (ht.unbroken c hc).1
  rw [text, quoteTerm, hblank]
  rfl

theorem IsPhrase.toList_text {t : String} (ht : IsPhrase t.toList) :
    (Query.term t).text.toList = '"' :: (t.toList ++ ['"']) := by
  rw [text, quoteTerm, ht.blank]
  simp

/-- The text behind an operand begins with a break. -/
theorem behind_eq_cons (c : Connective) (rest : List Char) (qs : List Query) :
    ∃ e more, behind c rest qs = e :: more ∧ isBreak e = true := by
  cases qs with
  | nil => exact ⟨')', rest, rfl, rfl⟩
  | cons q qs => exact ⟨' ', _, rfl, rfl⟩

end Texts

/-- What comes before the first mark of a text is the same in two readings of it. -/
theorem eq_of_append_eq (mark : Char → Bool) {w w' s s' : List Char}
    (hw : ∀ c ∈ w, mark c = false) (hw' : ∀ c ∈ w', mark c = false)
    (hs : ∃ e more, s = e :: more ∧ mark e = true)
    (hs' : ∃ e more, s' = e :: more ∧ mark e = true) (h : w ++ s = w' ++ s') :
    w = w' ∧ s = s' := by
  obtain ⟨e, more, rfl, he⟩ := hs
  obtain ⟨e', more', rfl, he'⟩ := hs'
  induction w generalizing w' with
  | nil =>
      cases w' with
      | nil => exact ⟨rfl, h⟩
      | cons c' w' =>
          obtain ⟨rfl, -⟩ := List.cons.inj h
          simp [hw'] at he
  | cons c w ih =>
      cases w' with
      | nil =>
          obtain ⟨rfl, -⟩ := List.cons.inj h
          simp [hw] at he'
      | cons c' w' =>
          obtain ⟨rfl, htail⟩ := List.cons.inj h
          obtain ⟨rfl, hrest⟩ := ih (List.forall_mem_cons.mp hw).2 (List.forall_mem_cons.mp hw').2
            htail
          exact ⟨rfl, hrest⟩

section Words

variable {w s rest : List Char} {q : Query}

theorem IsWord.isBreak_eq_false (hw : IsWord w) : ∀ c ∈ w, isBreak c = false := by
  intro c hc
  obtain ⟨hblank, hclose⟩ := hw.unbroken c hc
  have hspace : c ≠ ' ' := by
    rintro rfl
    cases hblank
  simp [isBreak, hspace, hclose]

/-- Neither a group nor a phrase begins like a word does. -/
theorem IsWord.first_append (hw : IsWord w) (hs : ∃ e more, s = e :: more ∧ isBreak e = true)
    {e : Char} {more : List Char} (h : w ++ s = e :: more) : e ≠ '(' ∧ e ≠ '"' := by
  cases w with
  | nil =>
      obtain ⟨e', more', rfl, he'⟩ := hs
      obtain ⟨rfl, -⟩ := List.cons.inj h
      constructor <;> (rintro rfl; cases he')
  | cons c w =>
      obtain ⟨rfl, -⟩ := List.cons.inj h
      exact hw.first c rfl

/-- Where a text begins with a word, it is the text of that word as a term, or of a negation. -/
theorem IsWord.reading (hw : IsWord w) (hs : ∃ e more, s = e :: more ∧ isBreak e = true)
    (hq : Legible q) (hrest : ∃ e more, rest = e :: more ∧ isBreak e = true)
    (h : w ++ s = q.text.toList ++ rest) :
    q = .term (String.ofList w) ∧ s = rest ∨
      w = "NOT".toList ∧ ∃ q', Legible q' ∧ q = .not q' ∧ s = ' ' :: (q'.text.toList ++ rest) := by
  cases hq with
  | @word t ht =>
      rw [ht.toList_text] at h
      obtain ⟨rfl, hs⟩ :=
        eq_of_append_eq isBreak hw.isBreak_eq_false ht.isBreak_eq_false hs hrest h
      exact .inl ⟨by rw [String.ofList_toList], hs⟩
  | phrase ht =>
      rw [ht.toList_text] at h
      exact absurd rfl (hw.first_append hs h).2
  | group hq hqs =>
      rw [toList_group] at h
      exact absurd rfl (hw.first_append hs h).1
  | @not q' hq' =>
      rw [toList_not, List.append_assoc] at h
      have hnot : IsWord "NOT".toList := by decide
      obtain ⟨rfl, hs⟩ := eq_of_append_eq isBreak hw.isBreak_eq_false hnot.isBreak_eq_false hs
        ⟨' ', _, rfl, rfl⟩ h
      exact .inr ⟨rfl, q', hq', rfl, hs⟩

end Words

/-- Two readings that are out of step do not come to an end together: what comes behind an operand
is not the beginning of one. -/
theorem behind_ne (c c' : Connective) (rest rest' : List Char) (ps qs : List Query) (q : Query)
    (hps : ∀ p ∈ ps, Legible p) (hq : Legible q) (hqs : ∀ q ∈ qs, Legible q) :
    behind c rest ps ≠ ' ' :: (q.text.toList ++ behind c' rest' qs) := by
  intro h
  cases ps with
  | nil => cases (List.cons.inj h).1
  | cons p ps =>
      obtain ⟨hp, hps⟩ := List.forall_mem_cons.mp hps
      obtain ⟨-, hbehind⟩ | ⟨hnot, -⟩ := c.isWord_word.reading ⟨' ', _, rfl, rfl⟩ hq
        (behind_eq_cons c' rest' qs) (List.cons.inj h).2
      · exact behind_ne c' c rest' rest qs ps p hqs hp hps hbehind.symm
      · cases c <;> cases hnot
termination_by ps.length + qs.length

/-- The text of the query tells where it ends, and what the query says, in any group. -/
def Told (p : Query) : Prop :=
  ∀ (q : Query) (c c' : Connective) (rest rest' : List Char) (ps qs : List Query), Legible q →
    (∀ p ∈ ps, Legible p) → (∀ q ∈ qs, Legible q) →
    p.text.toList ++ behind c rest ps = q.text.toList ++ behind c' rest' qs →
    Equivalent p q ∧ behind c rest ps = behind c' rest' qs

/-- The texts of operands tell what these say, and of two or more the connective. -/
theorem eq_of_behind {c c' : Connective} {rest rest' : List Char} {ps qs : List Query}
    (htold : ∀ p ∈ ps, Told p) (hps : ∀ p ∈ ps, Legible p) (hqs : ∀ q ∈ qs, Legible q)
    (h : behind c rest ps = behind c' rest' qs) :
    List.Forall₂ Equivalent ps qs ∧ (ps = [] ∨ c = c') ∧ rest = rest' := by
  induction ps generalizing qs with
  | nil =>
      cases qs with
      | nil => exact ⟨.nil, .inl rfl, (List.cons.inj h).2⟩
      | cons q qs => cases (List.cons.inj h).1
  | cons p ps ih =>
      cases qs with
      | nil => cases (List.cons.inj h).1
      | cons q qs =>
          obtain ⟨htoldp, htold⟩ := List.forall_mem_cons.mp htold
          obtain ⟨-, hps⟩ := List.forall_mem_cons.mp hps
          obtain ⟨hq, hqs⟩ := List.forall_mem_cons.mp hqs
          have hwords : c.word.toList ++ ' ' :: (p.text.toList ++ behind c rest ps) =
              c'.word.toList ++ ' ' :: (q.text.toList ++ behind c' rest' qs) := (List.cons.inj h).2
          obtain ⟨hword, htexts⟩ := eq_of_append_eq isBreak c.isWord_word.isBreak_eq_false
            c'.isWord_word.isBreak_eq_false ⟨' ', _, rfl, rfl⟩ ⟨' ', _, rfl, rfl⟩ hwords
          have hc : c = c' := by cases c <;> cases c' <;> first | rfl | cases hword
          obtain ⟨hfirst, hbehind⟩ :=
            htoldp q c c' rest rest' ps qs hq hps hqs (List.cons.inj htexts).2
          obtain ⟨hothers, -, hrest⟩ := ih htold hps hqs hbehind
          exact ⟨.cons hfirst hothers, .inr hc, hrest⟩

theorem allHold_eq_of_forall₂ {ps qs : List Query} (h : List.Forall₂ Equivalent ps qs)
    (v : String → Bool) : allHold v ps = allHold v qs := by
  induction h with
  | nil => rfl
  | cons hfirst _ ih => rw [allHold, allHold, hfirst v, ih]

theorem anyHolds_eq_of_forall₂ {ps qs : List Query} (h : List.Forall₂ Equivalent ps qs)
    (v : String → Bool) : anyHolds v ps = anyHolds v qs := by
  induction h with
  | nil => rfl
  | cons hfirst _ ih => rw [anyHolds, anyHolds, hfirst v, ih]

/-- Groups of equivalent operands are equivalent, and those of one operand whatever joins them. -/
theorem equivalent_group {c c' : Connective} {p q : Query} {ps qs : List Query}
    (hfirst : Equivalent p q) (hothers : List.Forall₂ Equivalent ps qs)
    (hsame : ps = [] ∨ c = c') : Equivalent (c.group (p :: ps)) (c'.group (q :: qs)) := by
  intro v
  obtain rfl | rfl := hsame
  · cases hothers
    have hsingle (c : Connective) (q : Query) : (c.group [q]).holds v = q.holds v := by
      cases c <;> simp [Connective.group, holds, allHold, anyHolds]
    rw [hsingle, hsingle, hfirst v]
  · have hall := List.Forall₂.cons hfirst hothers
    cases c with
    | and => exact allHold_eq_of_forall₂ hall v
    | or => exact anyHolds_eq_of_forall₂ hall v

/-- Legible queries are told by their texts. -/
theorem Legible.told {p : Query} (hp : Legible p) : Told p := by
  induction hp with
  | @word t ht =>
      intro q c c' rest rest' ps qs hq hps hqs h
      rw [ht.toList_text] at h
      obtain ⟨rfl, hbehind⟩ | ⟨-, q', hq', -, hout⟩ :=
        ht.reading (behind_eq_cons c rest ps) hq (behind_eq_cons c' rest' qs) h
      · exact ⟨fun v => by rw [String.ofList_toList], hbehind⟩
      · exact absurd hout (behind_ne c c' rest rest' ps qs q' hps hq' hqs)
  | @phrase t ht =>
      intro q c c' rest rest' ps qs hq hps hqs h
      rw [ht.toList_text] at h
      cases hq with
      | word hw =>
          rw [hw.toList_text] at h
          exact absurd rfl (hw.first_append (behind_eq_cons c' rest' qs) h.symm).2
      | @phrase t' ht' =>
          rw [ht'.toList_text] at h
          have htexts : t.toList ++ '"' :: behind c rest ps = t'.toList ++ '"' :: behind c' rest' qs :=
            by simpa using h
          obtain ⟨hsame, hbehind⟩ := eq_of_append_eq (· == '"') (by simpa using ht.unquoted)
            (by simpa using ht'.unquoted) ⟨'"', _, rfl, rfl⟩ ⟨'"', _, rfl, rfl⟩ htexts
          obtain rfl := String.toList_inj.mp hsame
          exact ⟨fun v => rfl, (List.cons.inj hbehind).2⟩
      | group hq hqs' =>
          rw [toList_group] at h
          cases (List.cons.inj h).1
      | not hq =>
          rw [toList_not] at h
          cases (List.cons.inj h).1
  | @group d p ps' hp hps' ih ihs =>
      intro q c c' rest rest' ps qs hq hps hqs h
      rw [toList_group] at h
      cases hq with
      | word hw =>
          rw [hw.toList_text] at h
          exact absurd rfl (hw.first_append (behind_eq_cons c' rest' qs) h.symm).1
      | phrase ht =>
          rw [ht.toList_text] at h
          cases (List.cons.inj h).1
      | @group d' q qs' hq hqs' =>
          rw [toList_group] at h
          obtain ⟨hfirst, hbehind⟩ := ih q d d' _ _ ps' qs' hq hps' hqs' (List.cons.inj h).2
          obtain ⟨hothers, hsame, hrest⟩ := eq_of_behind ihs hps' hqs' hbehind
          exact ⟨equivalent_group hfirst hothers hsame, hrest⟩
      | not hq =>
          rw [toList_not] at h
          cases (List.cons.inj h).1
  | @not p hp ih =>
      intro q c c' rest rest' ps qs hq hps hqs h
      cases hq with
      | word hw =>
          rw [hw.toList_text] at h
          obtain ⟨hterm, -⟩ | ⟨-, p', hp', -, hout⟩ :=
            hw.reading (behind_eq_cons c' rest' qs) (.not hp) (behind_eq_cons c rest ps) h.symm
          · cases hterm
          · exact absurd hout (behind_ne c' c rest' rest qs ps p' hqs hp' hps)
      | phrase ht =>
          rw [ht.toList_text, toList_not] at h
          cases (List.cons.inj h).1
      | group hq hqs' =>
          rw [toList_group, toList_not] at h
          cases (List.cons.inj h).1
      | @not q hq =>
          rw [toList_not, toList_not, List.append_assoc, List.append_assoc] at h
          obtain ⟨hoperands, hbehind⟩ :=
            ih q c c' rest rest' ps qs hq hps hqs (List.cons.inj (List.append_cancel_left h)).2
          exact ⟨fun v => by rw [holds, holds, hoperands v], hbehind⟩

/-- Legible queries with the same canonical text hold in the same cases. -/
theorem equivalent_of_same_text (p q : Query) (hp : Legible p) (hq : Legible q)
    (h : p.text = q.text) : Equivalent p q :=
  -- Any group will do for the two texts to be read in.
  (hp.told q .and .and [] [] [] [] hq (by simp) (by simp) (by rw [h])).1

/-- A phrase in a group of its own, and the word NOT as a term that is negated. -/
theorem equivalent_of_same_text_nested :
    let phrase := Query.term "graph mining"
    let negated := Query.not (.term "NOT")
    Legible (.and [.or [phrase], negated]) ∧ Legible (.and [.and [phrase], negated]) ∧
      (Query.and [.or [phrase], negated]).text = (Query.and [.and [phrase], negated]).text ∧
      Equivalent (.and [.or [phrase], negated]) (.and [.and [phrase], negated]) := by
  intro phrase negated
  have hphrase : Legible phrase := .phrase (by decide)
  have hnegated : ∀ q ∈ [negated], Legible q := by
    rw [List.forall_mem_singleton]
    exact .not (.word (by decide))
  have hgroup (c : Connective) : Legible (.and [c.group [phrase], negated]) :=
    .group (c := .and) (.group hphrase (by simp)) hnegated
  exact ⟨hgroup .or, hgroup .and, rfl,
    equivalent_of_same_text _ _ (hgroup .or) (hgroup .and) rfl⟩

/-- Groups without operands, a term in brackets and terms with quotes in them share their texts with
queries that say something else. -/
theorem unlike_queries_share_text :
    (Query.and []).text = (Query.or []).text ∧ ¬ Equivalent (.and []) (.or []) ∧
      (Query.and [.term "a"]).text = (Query.term "(a)").text ∧
        ¬ Equivalent (.and [.term "a"]) (.term "(a)") ∧
      (Query.or [.term "\"a", .term "b\""]).text = (Query.or [.term "a OR b"]).text ∧
        ¬ Equivalent (.or [.term "\"a", .term "b\""]) (.or [.term "a OR b"]) := by
  refine ⟨rfl, fun h => ?_, rfl, fun h => ?_, rfl, fun h => ?_⟩
  · cases h fun _ => true
  · cases h fun t => t == "a"
  · cases h fun t => t == "a OR b"

end Query

end Harvest
