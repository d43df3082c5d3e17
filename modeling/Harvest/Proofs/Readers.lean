import Harvest.Cleaning
import Harvest.Proofs.Markup.Building
import Harvest.Proofs.Triple

/-!
What is needed of the readers of other formats.

XML, pages, regular expressions and addresses are read by rules that were made elsewhere. The
theorems look into them at few places, and what they find there is collected here. Of the readers of
documents: what they make of a text, they make with a builder. Of the reader of XML: where end tags
are checked the tags are nested, and where the checks find nothing, what is read is the same without
them; what a printed tag is read as is shown with the printer. Of regular expressions and addresses
nothing is needed: what is proved holds whatever matches and wherever an address leads.
-/

namespace Harvest.Xml

open Harvest.Markup

/-- A text has a document if it has events to its end and a builder takes them all; strict reading
wants everything closed as well. -/
theorem parse_eq_ok_iff {strict : Bool} {source : String} {d : Document} :
    parse strict source = .ok d ↔ ∃ es last, events strict source = (es, none) ∧
      takeEvents strict Builder.empty es = .ok last ∧ (strict = true → last.openName? = none) ∧
      d = last.document := by
  unfold parse
  rcases events strict source with ⟨es, failure⟩
  constructor
  · intro h
    obtain ⟨last, hlast, h⟩ := bind_eq_ok.mp h
    cases failure with
    | some failure => cases h
    | none =>
        cases htaken : takeEvents strict Builder.empty es with
        | error problem =>
            rw [htaken] at hlast
            cases hlast
        | ok taken =>
            rw [htaken] at hlast
            cases hlast
            refine ⟨es, last, rfl, htaken, ?_⟩
            cases strict with
            | false =>
                cases h
                exact ⟨nofun, rfl⟩
            | true =>
                cases hopen : last.openName? with
                | none =>
                    rw [hopen] at h
                    cases h
                    exact ⟨fun _ => rfl, rfl⟩
                | some name =>
                    rw [hopen] at h
                    cases h
  · rintro ⟨es', last, hevents, htaken, hopen, rfl⟩
    cases hevents
    refine bind_eq_ok.mpr ⟨last, congrArg (Except.mapError Error.malformed) htaken, ?_⟩
    cases strict with
    | false => rfl
    | true =>
        dsimp only
        rw [hopen rfl]
        rfl

section Unchecked

variable {opened opened' : Option (List (List Char))}

/-- What is read while end tags are checked is read without the check as well. -/
theorem readMarkup_unchecked {cs : List Char} {event : Event} {taken : Nat}
    (h : readMarkup opened cs = .ok (event, opened', taken)) :
    readMarkup none cs = .ok (event, none, taken) := by
  unfold readMarkup at h ⊢
  split at h
  · cases h
  · split at h
    · cases h
    · cases h
    · split at h
      · cases h
      · cases h
        rfl
  · split at h
    · cases h
    · split at h
      · cases h
      · next hlong =>
        cases h
        exact if_neg hlong
  · split at h
    · cases h
    · dsimp only at h
      split at h
      · cases h
      · cases h
        rfl
  · split at h
    · cases h
    · dsimp only at h ⊢
      split at h
      · cases h
        rfl
      · cases h
        rfl

/-- If the check of end tags breaks nothing off, there are the same events without it. -/
theorem eventsFrom_unchecked {offset : Nat} {cs : List Char} {events : List Event}
    (h : eventsFrom opened offset cs = (events, none)) :
    eventsFrom none offset cs = (events, none) := by
  fun_induction eventsFrom opened offset cs generalizing events with
  | case1 => simpa only [eventsFrom] using h
  | case2 => cases h
  | case3 opened offset rest event opened' taken hread later failure hlater ih =>
      cases h
      rw [eventsFrom, readMarkup_unchecked hread]
      simp only [ih hlater]
  | case4 opened offset c rest hchar more later failure hlater =>
      rename_i ih
      cases h
      rw [eventsFrom.eq_3 _ _ _ _ hchar]
      simp only [more, ih hlater]

theorem events_unchecked {source : String} {es : List Event} (h : events true source = (es, none)) :
    events false source = (es, none) :=
  eventsFrom_unchecked h

/-- Where every reading is an attribute, keys that may be repeated are read the same. -/
theorem attributesFrom_repeatable {seen : Option (List (List Char × Nat))} {offset : Nat}
    {cs : List Char} (h : ∀ reading ∈ attributesFrom seen offset cs, reading.isOk = true) :
    attributesFrom none offset cs = attributesFrom seen offset cs := by
  fun_induction attributesFrom seen offset cs with
  | case1 seen offset cs hblank =>
      rw [attributesFrom]
      split
      · rfl
      · next hmore => cases hblank.symm.trans hmore
  | case4 seen offset cs first more hfirst start key afterKey gap keyEnd afterEquals hequals hnew
      seen' blanks valueStart q rest hvalue hquote value hclosed =>
      rename_i ih
      rw [← ih (List.forall_mem_cons.mp h).2]
      -- The tag is the same, so the two readings of it can only differ in the keys that are known.
      conv => lhs; unfold attributesFrom
      split
      · next hblank => cases hfirst.symm.trans hblank
      · next hfirst' =>
        cases hfirst.symm.trans hfirst'
        dsimp only [Option.bind_none, Option.map_none]
        split
        · next hequals' =>
          cases hequals.symm.trans hequals'
          split
          · next hend => cases hvalue.symm.trans hend
          · next hvalue' =>
            cases hvalue.symm.trans hvalue'
            rw [if_pos hquote, if_pos hclosed]
        · next hother => exact absurd hequals (hother _)
  | case2 | case3 | case5 | case6 | case7 => simp [Except.isOk, Except.toBool] at h

end Unchecked

section Nested

variable {names : List (List Char)}

/-- The names that are still to be closed after an event, innermost first; none where an end tag
closes something else. -/
def Event.names? (names : List (List Char)) : Event → Option (List (List Char))
  | .startTag tag => some (tag.name :: names)
  | .endTag name =>
    match names with
    | [] => none
    | expected :: outer => if name = expected then some outer else none
  | _ => some names

def Nested (names : List (List Char)) : List Event → Prop
  | [] => True
  | e :: events => ∃ names', e.names? names = some names' ∧ Nested names' events

theorem names?_bangEvent {content : List Char} {event : Event}
    (h : bangEvent content = .ok event) (names : List (List Char)) :
    event.names? names = some names := by
  unfold bangEvent at h
  split at h
  · split at h
    · cases h
      rfl
    · cases h
  · dsimp only at h
    split at h
    · cases h
      rfl
    · cases h
  · split at h
    · split at h
      · cases h
      · cases h
        rfl
    · cases h

theorem names?_closeName {name : List Char} {opened : Option (List (List Char))}
    (h : closeName (some names) name = .ok opened) :
    ∃ names', opened = some names' ∧ (Event.endTag name).names? names = some names' := by
  cases names with
  | nil => cases h
  | cons expected outer =>
      rw [closeName] at h
      split at h
      · next hname =>
        cases h
        exact ⟨outer, rfl, if_pos hname⟩
      · cases h

/-- Where end tags are checked, they close the innermost name. -/
theorem names?_readMarkup {cs : List Char} {event : Event}
    {opened : Option (List (List Char))} {taken : Nat}
    (h : readMarkup (some names) cs = .ok (event, opened, taken)) :
    ∃ names', opened = some names' ∧ event.names? names = some names' := by
  unfold readMarkup at h
  split at h
  · cases h
  · split at h
    · cases h
    · cases h
    · split at h
      · cases h
      · next event' hbang =>
        cases h
        exact ⟨names, rfl, names?_bangEvent hbang names⟩
  · split at h
    · cases h
    · split at h
      · cases h
      · cases h
        exact ⟨names, rfl, rfl⟩
  · split at h
    · cases h
    · dsimp only at h
      split at h
      · cases h
      · next hclose =>
        cases h
        exact names?_closeName hclose
  · split at h
    · cases h
    · dsimp only at h
      split at h
      · cases h
        exact ⟨names, rfl, rfl⟩
      · cases h
        exact ⟨_, rfl, rfl⟩

/-- What is read to its end is nested. -/
theorem nested_eventsFrom {opened : Option (List (List Char))} {offset : Nat} {cs : List Char}
    {es : List Event} (hopened : opened = some names)
    (h : eventsFrom opened offset cs = (es, none)) : Nested names es := by
  fun_induction eventsFrom opened offset cs generalizing es names with
  | case1 =>
      cases h
      trivial
  | case2 => cases h
  | case3 opened offset rest event opened' taken hread later failure hlater ih =>
      cases h
      subst hopened
      obtain ⟨names', hnames, hevent⟩ := names?_readMarkup hread
      exact ⟨names', hevent, ih hnames hlater⟩
  | case4 opened offset c rest hchar more later failure hlater =>
      rename_i ih
      cases h
      exact ⟨names, rfl, ih hopened hlater⟩

end Nested

section Built

variable {strict : Bool} {b b' : Builder}

theorem exists_steps_of_openTag {tag : Tag} (h : openTag strict b tag = .ok b') :
    ∃ step, b' = b.step step := by
  obtain ⟨attributes, -, h⟩ := bind_eq_ok.mp h
  cases h
  exact ⟨.openElement (String.ofList tag.name) attributes, rfl⟩

theorem exists_steps_of_takeEvent {event : Event} (h : takeEvent strict b event = .ok b') :
    ∃ steps : List BuildStep, b' = steps.foldl Builder.step b := by
  cases event with
  | startTag tag =>
      obtain ⟨step, rfl⟩ := exists_steps_of_openTag h
      exact ⟨[step], rfl⟩
  | emptyTag tag =>
      obtain ⟨opened, hopened, h⟩ := bind_eq_ok.mp h
      obtain ⟨step, rfl⟩ := exists_steps_of_openTag hopened
      cases h
      exact ⟨[step, .closeCurrent], rfl⟩
  | endTag name =>
      rw [takeEvent] at h
      split at h
      · next closed hclosed =>
        cases h
        refine ⟨[.closeElement (String.ofList name)], ?_⟩
        rw [List.foldl_cons, List.foldl_nil, Builder.step, hclosed, Option.getD_some]
      · split at h
        · cases h
        · cases h
          exact ⟨[], rfl⟩
  | text raw =>
      obtain ⟨content, -, h⟩ := bind_eq_ok.mp h
      cases h
      exact ⟨[.text content], rfl⟩
  | cdata content =>
      cases h
      exact ⟨[.text (String.ofList content)], rfl⟩
  | comment content =>
      cases h
      exact ⟨[.comment (String.ofList content)], rfl⟩
  | aside =>
      cases h
      exact ⟨[], rfl⟩

theorem exists_steps_of_takeEvents {events : List Event} (h : takeEvents strict b events = .ok b') :
    ∃ steps : List BuildStep, b' = steps.foldl Builder.step b := by
  induction events generalizing b with
  | nil =>
      cases h
      exact ⟨[], rfl⟩
  | cons event rest ih =>
      obtain ⟨next, hnext, h⟩ := bind_eq_ok.mp h
      obtain ⟨first, rfl⟩ := exists_steps_of_takeEvent hnext
      obtain ⟨later, rfl⟩ := ih h
      exact ⟨first ++ later, List.foldl_append.symm⟩

theorem exists_run_of_parse {source : String} {d : Document} (h : parse strict source = .ok d) :
    ∃ steps, d = (Builder.run steps).document := by
  obtain ⟨es, last, -, htaken, -, rfl⟩ := parse_eq_ok_iff.mp h
  obtain ⟨steps, rfl⟩ := exists_steps_of_takeEvents htaken
  exact ⟨steps, rfl⟩

end Built

end Harvest.Xml

namespace Harvest.Html

open Harvest.Markup

theorem exists_run_toDocument (t : Tree) :
    ∃ steps, t.toDocument = (Builder.run steps).document := by
  unfold Tree.toDocument
  split
  · exact ⟨_, rfl⟩
  · exact ⟨[], rfl⟩

end Harvest.Html

namespace Harvest

open Harvest.Markup

/-- Whatever a text is read as, its document is one that a builder makes. -/
theorem exists_run_of_clean {mode : CleanMode} {substitutions : List Substitution} {text : String}
    {d : Document} (h : clean mode substitutions text = .ok d) :
    ∃ steps, d = (Builder.run steps).document := by
  unfold clean at h
  split at h
  · cases h
  · cases mode with
    | html | verbatim =>
        cases h
        exact Html.exists_run_toDocument _
    | xml | strict => exact Xml.exists_run_of_parse h

/-- So it is a tree in document order, in which only elements have something beneath them. -/
theorem wellFormed_of_clean {mode : CleanMode} {substitutions : List Substitution} {text : String}
    {d : Document} (h : clean mode substitutions text = .ok d) : d.WellFormed := by
  obtain ⟨steps, rfl⟩ := exists_run_of_clean h
  exact (Builder.sound_run steps).document

end Harvest
