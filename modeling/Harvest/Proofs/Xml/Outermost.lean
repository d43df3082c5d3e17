import Harvest.Cleaning
import Harvest.Proofs.Xml.Mirroring

/-!
What stands at the top of a document that was read strictly.

Strict reading sees to it that every tag has its partner, and to nothing beyond: that there is one
element around everything else is not looked at. Which elements and which character data come right
below the root can be read off the events of the text, as those that come while no element is open.
-/

namespace Harvest

open Harvest.Markup Harvest.Text

namespace Markup

def NodeKind.data : NodeKind → List Char
  | .text content => content.toList
  | _ => []

theorem NodeKind.data_extend {kind : NodeKind} (h : kind.isText = true) (more : String) :
    (kind.extend more).data = kind.data ++ more.toList := by
  cases kind with
  | text content => exact String.toList_append
  | root | element _ _ | comment _ => cases h

namespace Document

variable {d : Document}

def dataIn (d : Document) (i : Nat) : List Char := (d.children i).flatMap fun c => (d.kind c).data

/-- One element right below the root, and no character data there but blanks. -/
structure SingleRooted (d : Document) : Prop where
  element : (d.elements 0).length = 1
  blank : ∀ i ∈ d.children 0, ∀ content, d.kind i = .text content → isBlankText content = true

theorem all_isBlank_dataIn {i : Nat} : (d.dataIn i).all isBlank = true ↔
    ∀ c ∈ d.children i, ∀ content, d.kind c = .text content → isBlankText content = true := by
  rw [dataIn, List.all_flatMap, List.all_eq_true]
  refine forall₂_congr fun c _ => ?_
  cases hkind : d.kind c with
  | text content =>
      refine ⟨fun h content' heq => NodeKind.text.inj heq ▸ h, fun h => h content rfl⟩
  | root | element _ _ | comment _ =>
      refine iff_of_true rfl fun content heq => ?_
      cases heq

theorem dataIn_append {p : Nat} (hp : p < d.size) (kind : NodeKind) (i : Nat) :
    (d.append p hp kind).dataIn i =
      if i = p then d.dataIn i ++ kind.data else d.dataIn i := by
  have hold : (d.children i).flatMap (fun c => ((d.append p hp kind).kind c).data) =
      d.dataIn i := by
    refine List.flatMap_congr fun c hc => ?_
    rw [d.kind_append_of_lt hp kind (child_lt hc).2]
  rw [dataIn, children_append]
  split
  · next hi =>
    subst hi
    rw [List.flatMap_append, hold, List.flatMap_singleton, kind_append_size]
  · exact hold

/-- A last child is a child of no other node, and once one of its own. -/
theorem dataIn_extendText (h : d.Preorder) {p last : Nat}
    (hlast : (d.children p).getLast? = some last) (htext : (d.kind last).isText = true)
    (more : String) (i : Nat) : (d.extendText last more).dataIn i =
      if i = p then d.dataIn i ++ more.toList else d.dataIn i := by
  have hother {cs : List Nat} (hcs : last ∉ cs) :
      cs.flatMap (fun c => ((d.extendText last more).kind c).data) =
        cs.flatMap fun c => (d.kind c).data := by
    refine List.flatMap_congr fun c hc => ?_
    rw [kind_extendText, if_neg (ne_of_mem_of_not_mem hc hcs)]
  rw [dataIn, children_extendText]
  split
  · next hi =>
    subst hi
    obtain ⟨before, hchildren⟩ := List.getLast?_eq_some_iff.mp hlast
    have hnodup := (h.pairwise_children i).nodup
    rw [hchildren] at hnodup
    have hbefore : last ∉ before := fun hmem =>
      (List.nodup_append.mp hnodup).2.2 last hmem last (List.mem_singleton_self last) rfl
    rw [dataIn, hchildren, List.flatMap_append, List.flatMap_append, hother hbefore,
      List.flatMap_singleton, List.flatMap_singleton, kind_extendText, if_pos rfl,
      NodeKind.data_extend htext, List.append_assoc]
  · next hi =>
    refine hother fun hmem => hi ?_
    have hparent := h.mem_children.mp hmem
    rw [h.mem_children.mp (List.mem_of_getLast? hlast)] at hparent
    exact (Option.some.inj hparent).symm

end Document

namespace Builder

variable {b : Builder}

/-- Character data goes to the current node, whether as a node of its own or not. -/
theorem Sound.dataIn_text (h : b.Sound) (content : String) (i : Nat) :
    (b.text content).document.dataIn i =
      if i = b.current then b.document.dataIn i ++ content.toList else b.document.dataIn i := by
  have happend := b.document.dataIn_append b.current_lt (.text content) i
  unfold Builder.text
  split
  · next hempty =>
    rw [hempty, String.toList_empty, List.append_nil, ite_self]
  · split
    · next last hlast =>
      split
      · next old hkind =>
        have htext : (b.document.kind last).isText = true := by rw [hkind]; rfl
        exact Document.dataIn_extendText h.document.preorder hlast htext content i
      · exact happend
    · exact happend

/-- It adds no element. -/
theorem elements_text (b : Builder) (content : String) (i : Nat) :
    (b.text content).document.elements i = b.document.elements i := by
  obtain hsame | happend | ⟨last, hdocument, -⟩ := b.text_cases content
  · rw [hsame]
  · rw [happend, document_append, Document.elements_append, if_neg]
    rintro ⟨-, helement⟩
    cases helement
  · rw [hdocument, Document.elements_extendText]

/-- Where nothing is open, the root is the current node. -/
theorem Sound.current_eq_zero_iff (h : b.Sound) : b.current = 0 ↔ b.opened = [] := by
  unfold current
  cases hopened : b.opened with
  | nil => exact iff_of_true rfl rfl
  | cons i rest =>
      have hpos := h.opened_pos (hopened ▸ List.mem_cons_self)
      exact iff_of_false (Nat.ne_of_gt hpos) (List.cons_ne_nil i rest)

end Builder

end Markup

namespace Xml

namespace Event

def isTag : Event → Bool
  | .startTag _ => true
  | .emptyTag _ => true
  | _ => false

/-- The character data of an event, with the references replaced. -/
def data : Event → List Char
  | .text raw => (unescape raw).toOption.getD raw
  | .cdata content => content
  | _ => []

def depth (n : Nat) : Event → Nat
  | .startTag _ => n + 1
  | .endTag _ => n - 1
  | _ => n

theorem length_names? {names names' : List (List Char)} {event : Event}
    (h : event.names? names = some names') : names'.length = event.depth names.length := by
  cases event with
  | startTag tag =>
      cases h
      rfl
  | endTag name =>
      cases names with
      | nil => cases h
      | cons expected outer =>
          rw [names?] at h
          split at h
          · cases h
            rfl
          · cases h
  | emptyTag _ | text _ | cdata _ | comment _ | aside =>
      cases h
      rfl

end Event

/-- The events that come while no element is open, where `n` elements are open at first. -/
def outermost (n : Nat) : List Event → List Event
  | [] => []
  | event :: events => (if n = 0 then [event] else []) ++ outermost (event.depth n) events

/-- One tag, and no character data but blanks. -/
structure SingleTag (events : List Event) : Prop where
  tag : events.countP Event.isTag = 1
  blank : ∀ event ∈ events, event.data.all isBlank = true

section Events

variable {names names' : List (List Char)} {b b' : Builder} {n : Nesting} {events : List Event}

theorem text_eq_of_resolveText {raw : List Char} {content : String}
    (h : resolveText true raw = .ok content) : content.toList = (Event.text raw).data := by
  unfold resolveText at h
  rw [Event.data]
  cases hraw : unescape raw with
  | ok cs =>
      rw [hraw] at h
      cases h
      exact String.toList_ofList
  | error fault =>
      rw [hraw] at h
      cases h

/-- The document has at the top what was there before the events and what they bring. -/
structure Tops (b b' : Builder) (events : List Event) : Prop where
  elements : (b'.document.elements 0).length =
    (b.document.elements 0).length + events.countP Event.isTag
  data : b'.document.dataIn 0 = b.document.dataIn 0 ++ events.flatMap Event.data

theorem Tops.nil (hdocument : b'.document = b.document) : Tops b b' [] where
  elements := by rw [hdocument]; rfl
  data := by rw [hdocument, List.flatMap_nil, List.append_nil]

theorem Tops.trans {b'' : Builder} {more : List Event} (h : Tops b b' events)
    (h' : Tops b' b'' more) : Tops b b'' (events ++ more) where
  elements := by rw [h'.elements, h.elements, List.countP_append, Nat.add_assoc]
  data := by rw [h'.data, h.data, List.flatMap_append, List.append_assoc]

/-- What comes to the current node comes to the top if nothing is open. -/
theorem tops_of_current (hsound : b.Sound) {event : Event}
    (helements : ∀ i, (b'.document.elements i).length =
      (b.document.elements i).length + if i = b.current ∧ event.isTag = true then 1 else 0)
    (hdata : ∀ i, b'.document.dataIn i =
      if i = b.current then b.document.dataIn i ++ event.data else b.document.dataIn i) :
    Tops b b' (if b.opened.length = 0 then [event] else []) := by
  have helements := helements 0
  have hdata := hdata 0
  by_cases hnone : b.opened.length = 0
  · have hcurrent := hsound.current_eq_zero_iff.mpr (List.length_eq_zero_iff.mp hnone)
    rw [hcurrent] at helements hdata
    rw [if_pos hnone]
    refine ⟨?_, ?_⟩
    · rw [helements, List.countP_singleton]
      simp
    · rw [hdata, if_pos rfl, List.flatMap_singleton]
  · have hcurrent : 0 ≠ b.current := fun heq =>
      hnone (List.length_eq_zero_iff.mpr (hsound.current_eq_zero_iff.mp heq.symm))
    rw [if_neg hnone]
    refine ⟨?_, ?_⟩
    · rw [helements, if_neg fun h => hcurrent h.1]
      rfl
    · rw [hdata, if_neg hcurrent, List.flatMap_nil, List.append_nil]

theorem tops_append (hsound : b.Sound) {kind : NodeKind} {event : Event}
    (hdocument : b'.document = (b.append kind).document) (htag : event.isTag = kind.isElement)
    (hdata : event.data = kind.data) :
    Tops b b' (if b.opened.length = 0 then [event] else []) := by
  refine tops_of_current hsound (fun i => ?_) fun i => ?_
  · rw [hdocument, Builder.document_append, Document.elements_append, htag]
    split
    · exact List.length_append
    · rfl
  · rw [hdocument, Builder.document_append, Document.dataIn_append, hdata]

theorem tops_text (hsound : b.Sound) {content : String} {event : Event}
    (htag : event.isTag = false) (hdata : event.data = content.toList) :
    Tops b (b.text content) (if b.opened.length = 0 then [event] else []) := by
  refine tops_of_current hsound (fun i => ?_) fun i => ?_
  · rw [b.elements_text, htag, if_neg (by simp), Nat.add_zero]
  · rw [hsound.dataIn_text, hdata]

theorem tops_same (hsound : b.Sound) {event : Event} (hdocument : b'.document = b.document)
    (htag : event.isTag = false) (hdata : event.data = []) :
    Tops b b' (if b.opened.length = 0 then [event] else []) := by
  refine tops_of_current hsound (fun i => ?_) fun i => ?_
  · rw [hdocument, htag, if_neg (by simp), Nat.add_zero]
  · rw [hdocument, hdata, List.append_nil, ite_self]

/-- What an event leaves at the top. -/
theorem tops_takeEvent {event : Event} (hsound : b.Sound)
    (hb : takeEvent true b event = .ok b') :
    Tops b b' (if b.opened.length = 0 then [event] else []) := by
  cases event with
  | startTag tag =>
      obtain ⟨attributes, -, hb⟩ := bind_eq_ok.mp hb
      cases hb
      exact tops_append hsound (b.document_openElement _ _) rfl rfl
  | emptyTag tag =>
      obtain ⟨b₁, hopen, hb⟩ := bind_eq_ok.mp hb
      cases hb
      obtain ⟨attributes, -, hopen⟩ := bind_eq_ok.mp hopen
      cases hopen
      exact tops_append hsound (b.document_openElement _ _) rfl rfl
  | endTag name =>
      rw [takeEvent] at hb
      split at hb
      · next closed hclose =>
        cases hb
        obtain ⟨hdocument, -⟩ := Builder.closeElement?_eq_some hclose
        exact tops_same hsound hdocument rfl rfl
      · cases hb
  | text raw =>
      obtain ⟨content, hcontent, hb⟩ := bind_eq_ok.mp hb
      cases hb
      exact tops_text hsound rfl (text_eq_of_resolveText hcontent).symm
  | cdata content =>
      cases hb
      exact tops_text hsound rfl String.toList_ofList.symm
  | comment content =>
      cases hb
      exact tops_append hsound rfl rfl rfl
  | aside =>
      cases hb
      exact tops_same hsound rfl rfl rfl

/-- The top of a document is what comes while no element is open. -/
theorem Mirrors.tops_takeEvents (h : Mirrors names b n) (hnested : Nested names events)
    (hb : Xml.takeEvents true b events = .ok b') : Tops b b' (outermost names.length events) := by
  induction events generalizing names b n with
  | nil =>
      cases hb
      exact .nil rfl
  | cons event events ih =>
      obtain ⟨next, hnext, hb⟩ := bind_eq_ok.mp hb
      obtain ⟨names', hnames, hnested⟩ := hnested
      obtain ⟨n', -, h'⟩ := h.takeEvent hnames hnext
      -- As many elements are open in the builder as names in the text.
      have hlength : b.opened.length = names.length := by
        simpa using congrArg List.length h.names
      have hfirst := tops_takeEvent h.sound hnext
      have hrest := ih h' hnested hb
      rw [Event.length_names? hnames] at hrest
      rw [hlength] at hfirst
      exact hfirst.trans hrest

end Events

/-- The top of a document that was read strictly. -/
theorem tops_of_strict {source : String} {d : Document} (h : parse true source = .ok d) :
    (d.elements 0).length = (outermost 0 (events true source).1).countP Event.isTag ∧
      d.dataIn 0 = (outermost 0 (events true source).1).flatMap Event.data := by
  obtain ⟨es, last, hevents, htaken, -, rfl⟩ := parse_eq_ok_iff.mp h
  have htops := mirrors_empty.tops_takeEvents (nested_eventsFrom rfl hevents) htaken
  have helements : (Builder.empty.document.elements 0).length = 0 := rfl
  have hdata : Builder.empty.document.dataIn 0 = [] := rfl
  rw [hevents]
  refine ⟨htops.elements.trans ?_, htops.data.trans ?_⟩
  · rw [helements, Nat.zero_add]
    rfl
  · rw [hdata, List.nil_append]
    rfl

theorem singleRooted_iff_of_strict {source : String} {d : Document}
    (h : parse true source = .ok d) :
    d.SingleRooted ↔ SingleTag (outermost 0 (events true source).1) := by
  obtain ⟨helements, hdata⟩ := tops_of_strict h
  have hblank : (∀ i ∈ d.children 0, ∀ content, d.kind i = .text content →
      isBlankText content = true) ↔
      ∀ event ∈ outermost 0 (events true source).1, event.data.all isBlank = true := by
    rw [← Document.all_isBlank_dataIn, hdata, List.all_flatMap, List.all_eq_true]
  constructor
  · intro hroot
    exact ⟨helements ▸ hroot.element, hblank.mp hroot.blank⟩
  · intro htag
    exact ⟨helements.trans htag.tag, hblank.mpr htag.blank⟩

end Xml

/-- A strictly cleaned text has one root element if the patched text has one tag outside of all
elements, and only blanks around it; nothing else is asked of it there. -/
theorem clean_strict_singleRooted_iff (substitutions : List Substitution) (text : String)
    (d : Document) (h : clean .strict substitutions text = .ok d) :
    d.SingleRooted ↔
      Xml.SingleTag (Xml.outermost 0 (Xml.events true (patch .strict substitutions text)).1) := by
  unfold clean at h
  split at h
  · cases h
  · exact Xml.singleRooted_iff_of_strict h

/-- A declaration, blanks and a comment do not count, and what is inside the element does not. -/
theorem clean_strict_singleRooted_iff_declared :
    ∃ d, clean .strict [] "<?xml version='1.0'?> <a>x<b/>&lt;</a> <!--c-->" = .ok d ∧
      d.SingleRooted := by
  have hclean : (clean .strict [] "<?xml version='1.0'?> <a>x<b/>&lt;</a> <!--c-->").isOk = true := by
    decide +kernel
  have htag : Xml.SingleTag (Xml.outermost 0 (Xml.events true
      (patch .strict [] "<?xml version='1.0'?> <a>x<b/>&lt;</a> <!--c-->")).1) :=
    ⟨by decide +kernel, by decide +kernel⟩
  cases hd : clean .strict [] "<?xml version='1.0'?> <a>x<b/>&lt;</a> <!--c-->" with
  | error problem =>
      rw [hd] at hclean
      cases hclean
  | ok d => exact ⟨d, rfl, (clean_strict_singleRooted_iff [] _ d hd).mpr htag⟩

/-- Without any tag a text is taken as a document with text right below the root. -/
theorem clean_strict_without_element :
    ∃ d, clean .strict [] "hello" = .ok d ∧ d.elements 0 = [] ∧ d.dataIn 0 = "hello".toList ∧
      ¬ d.SingleRooted := by
  have hclean : (clean .strict [] "hello").toOption.map (fun d => (d.elements 0, d.dataIn 0)) =
      some ([], "hello".toList) := by decide +kernel
  cases hd : clean .strict [] "hello" with
  | error problem =>
      rw [hd] at hclean
      cases hclean
  | ok d =>
      rw [hd] at hclean
      obtain ⟨helements, hdata⟩ := Prod.mk.inj (Option.some.inj hclean)
      refine ⟨d, rfl, helements, hdata, fun hroot => ?_⟩
      have hone := hroot.element
      rw [helements] at hone
      cases hone

end Harvest
