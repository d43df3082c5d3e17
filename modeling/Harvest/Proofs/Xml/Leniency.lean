import Harvest.Proofs.Readers

/-!
Leniency does not show on well-formed text.

Strict and lenient reading differ in what they do where something is wrong: an end tag that matches
nothing, a key written twice, an unknown reference, an element left open. Where strict reading comes
to an end, nothing of this has been met, so both have seen the same events and taken the same steps.
-/

namespace Harvest.Xml

open Harvest.Markup

section Attributes

theorem resolveText_lenient {raw : List Char} {content : String}
    (h : resolveText true raw = .ok content) : resolveText false raw = .ok content := by
  unfold resolveText at h ⊢
  split at h
  · exact h
  · cases h

/-- Strict reading puts up with no malformed attribute, and lenient reading takes the others as it
does. -/
theorem resolveAttributes_lenient {readings : List (Except AttributeFault RawAttribute)}
    {attributes : List Attribute} (h : resolveAttributes true readings = .ok attributes) :
    (∀ reading ∈ readings, reading.isOk = true) ∧
      resolveAttributes false readings = .ok attributes := by
  induction readings generalizing attributes with
  | nil => exact ⟨by simp, h⟩
  | cons reading rest ih =>
      cases reading with
      | error fault => cases h
      | ok raw =>
          rw [resolveAttributes] at h ⊢
          obtain ⟨value, hvalue, h⟩ := bind_eq_ok.mp h
          obtain ⟨others, hothers, h⟩ := bind_eq_ok.mp h
          obtain ⟨hall, hlenient⟩ := ih hothers
          exact ⟨List.forall_mem_cons.mpr ⟨rfl, hall⟩,
            bind_eq_ok.mpr ⟨value, resolveText_lenient hvalue,
              bind_eq_ok.mpr ⟨others, hlenient, h⟩⟩⟩

end Attributes

section Documents

variable {b b' : Builder}

theorem openTag_lenient {tag : Tag} (h : openTag true b tag = .ok b') :
    openTag false b tag = .ok b' := by
  unfold openTag at h ⊢
  obtain ⟨attributes, hattributes, h⟩ := bind_eq_ok.mp h
  obtain ⟨hall, hlenient⟩ := resolveAttributes_lenient hattributes
  have hsame : tag.attributes false = tag.attributes true := attributesFrom_repeatable hall
  exact bind_eq_ok.mpr ⟨attributes, hsame ▸ hlenient, h⟩

/-- A step that strict reading takes is the one that lenient reading takes. -/
theorem takeEvent_lenient {event : Event} (h : takeEvent true b event = .ok b') :
    takeEvent false b event = .ok b' := by
  cases event with
  | startTag tag => exact openTag_lenient h
  | emptyTag tag =>
      obtain ⟨opened, hopened, h⟩ := bind_eq_ok.mp h
      exact bind_eq_ok.mpr ⟨opened, openTag_lenient hopened, h⟩
  | endTag name =>
      rw [takeEvent] at h ⊢
      split at h
      · exact h
      · cases h
  | text raw =>
      obtain ⟨content, hcontent, h⟩ := bind_eq_ok.mp h
      exact bind_eq_ok.mpr ⟨content, resolveText_lenient hcontent, h⟩
  | cdata content => exact h
  | comment content => exact h
  | aside => exact h

theorem takeEvents_lenient {events : List Event} (h : takeEvents true b events = .ok b') :
    takeEvents false b events = .ok b' := by
  induction events generalizing b with
  | nil => exact h
  | cons event rest ih =>
      obtain ⟨next, hnext, h⟩ := bind_eq_ok.mp h
      exact bind_eq_ok.mpr ⟨next, takeEvent_lenient hnext, ih h⟩

theorem parse_lenient {source : String} {d : Document} (h : parse true source = .ok d) :
    parse false source = .ok d := by
  obtain ⟨es, last, hevents, htaken, -, rfl⟩ := parse_eq_ok_iff.mp h
  exact parse_eq_ok_iff.mpr
    ⟨es, last, events_unchecked hevents, takeEvents_lenient htaken, nofun, rfl⟩

end Documents

end Harvest.Xml

namespace Harvest

/-- A text that is well formed with its substitutions made has one document, whether it is read
strictly or leniently. -/
theorem clean_xml_of_strict (substitutions : List Substitution) (text : String)
    (d : Markup.Document) (h : clean .strict substitutions text = .ok d) :
    clean .xml substitutions text = .ok d := by
  unfold clean at h ⊢
  split at h
  · cases h
  · next htext =>
    rw [if_neg htext]
    exact Xml.parse_lenient h

/-- A record with a comment, references, character data of both kinds and an empty tag. -/
def sampleRecord : String :=
  "<?xml version='1.0'?><R a='1 &lt; 2' B=\"x\"><!--c-->A &amp; B<![CDATA[<]]><e/></R>"

/-- The record is well formed: beneath the root it has an element, a comment, a text that both kinds
of character data are part of, and an empty element. -/
theorem clean_xml_of_strict_record :
    ∃ d, clean .strict [] sampleRecord = .ok d ∧ d.size = 5 ∧ clean .xml [] sampleRecord = .ok d := by
  have hsize : (clean .strict [] sampleRecord).toOption.map (·.size) = some 5 := by decide +kernel
  cases hclean : clean .strict [] sampleRecord with
  | error problem =>
      rw [hclean] at hsize
      cases hsize
  | ok d =>
      rw [hclean] at hsize
      exact ⟨d, rfl, Option.some.inj hsize, clean_xml_of_strict [] sampleRecord d hclean⟩

end Harvest
