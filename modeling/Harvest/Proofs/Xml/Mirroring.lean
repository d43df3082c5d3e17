import Harvest.Proofs.Markup.Tree
import Harvest.Proofs.Readers
import Harvest.Xml.Element

/-!
The elements of a text mirror its document.

Two loops go through the events of a text. One adds nodes to a document and keeps the open ones by
their numbers; the other keeps the open elements themselves, and hands each to the one around it
when it ends. After every event the open elements are the open nodes as far as these are complete:
an element lacks just the child that is still open. This is so because strict reading lets no end
tag pass but that of the innermost open element.
-/

namespace Harvest

theorem SortedMap.get?_foldl_insert {α : Type} (entries : List (String × α)) (m : SortedMap α)
    (key : String) : (entries.foldl (fun m e => m.insert e.1 e.2) m).get? key =
      (entries.reverse.lookup key).or (m.get? key) := by
  induction entries generalizing m with
  | nil => rfl
  | cons e rest ih =>
      obtain ⟨name, value⟩ := e
      rw [List.foldl_cons, ih, List.reverse_cons, List.lookup_append, Option.or_assoc]
      congr 1
      by_cases hkey : key = name
      · rw [hkey, SortedMap.get?_insert]
        simp
      · have hother : (key == name) = false := beq_eq_false_iff_ne.mpr hkey
        rw [SortedMap.get?_insert_of_ne m hkey]
        simp [List.lookup_cons, hother]

/-- Of the entries with a name the last one counts. -/
theorem SortedMap.get?_ofList {α : Type} (entries : List (String × α)) (key : String) :
    (SortedMap.ofList entries).get? key = entries.reverse.lookup key :=
  (SortedMap.get?_foldl_insert entries .empty key).trans Option.or_none

namespace Markup.Document

variable (d : Document)

def elements (i : Nat) : List Nat := (d.children i).filter d.isElement

variable {d} {i j : Nat}

theorem mem_children_of_mem_elements (h : i ∈ d.elements j) : i ∈ d.children j :=
  (List.mem_filter.mp h).1

theorem isElement_of_mem_elements (h : i ∈ d.elements j) : d.isElement i = true :=
  (List.mem_filter.mp h).2

theorem elements_append {p : Nat} (hp : p < d.size) (kind : NodeKind) (j : Nat) :
    (d.append p hp kind).elements j =
      if j = p ∧ kind.isElement = true then d.elements j ++ [d.size] else d.elements j := by
  have hold : (d.children j).filter (d.append p hp kind).isElement = d.elements j := by
    refine List.filter_congr fun c hc => ?_
    rw [isElement, d.kind_append_of_lt hp kind (child_lt hc).2]
    rfl
  have hnew : (d.append p hp kind).isElement d.size = kind.isElement :=
    congrArg NodeKind.isElement (d.kind_append_size p hp kind)
  rw [elements, children_append]
  by_cases hj : j = p
  · subst hj
    rw [if_pos rfl, List.filter_append, hold]
    cases hkind : kind.isElement <;> simp [hnew, hkind]
  · rw [if_neg hj, if_neg fun h => hj h.1, hold]

theorem elements_extendText (id : Nat) (more : String) (j : Nat) :
    (d.extendText id more).elements j = d.elements j := by
  rw [elements, children_extendText]
  exact List.filter_congr fun c _ => d.isElement_extendText id more c

end Markup.Document

namespace Xml

open Harvest.Markup Harvest.Text

/-- The element that a node of a document stands for, with the elements below it. -/
def Element.ofNode (d : Document) (i : Nat) : Element :=
  { tag := (d.name? i).getD ""
    attributes := .ofList (d.attributes i)
    children := (d.elements i).attach.map fun ⟨c, _h⟩ => ofNode d c }
  termination_by d.size - i
  decreasing_by
    have := Document.child_lt (Document.mem_children_of_mem_elements _h); omega

theorem Element.ofNode_eq (d : Document) (i : Nat) :
    ofNode d i =
      ⟨(d.name? i).getD "", .ofList (d.attributes i), (d.elements i).map (ofNode d)⟩ := by
  rw [ofNode, List.map_subtype (g := ofNode d) fun _ _ => rfl, List.unattach_attach]

/-- Nodes stand for the same elements in two documents if they, and all that are found below them,
have the same names and attributes there, and the same elements as children. -/
theorem Element.ofNode_congr {d d' : Document} {S : Nat → Prop}
    (hkind : ∀ j, S j → d'.name? j = d.name? j ∧ d'.attributes j = d.attributes j)
    (helements : ∀ j, S j → d'.elements j = d.elements j)
    (hclosed : ∀ j, S j → ∀ c ∈ d.elements j, S c) {i : Nat} (hi : S i) :
    ofNode d' i = ofNode d i := by
  have hchildren : (d.elements i).map (ofNode d') = (d.elements i).map (ofNode d) :=
    List.map_congr_left fun c hc => ofNode_congr hkind helements hclosed (hclosed i hi c hc)
  rw [ofNode_eq, ofNode_eq, (hkind i hi).1, (hkind i hi).2, helements i hi, hchildren]
  termination_by d.size - i
  decreasing_by
    have := Document.child_lt (Document.mem_children_of_mem_elements hc); omega

section Growth

variable {d : Document} {i : Nat}

/-- A new node changes only the elements that it is put into. -/
theorem Element.ofNode_append (hd : d.Preorder) {p : Nat} (hp : p < d.size) (kind : NodeKind)
    (hi : i < d.size) (hout : kind.isElement = true → ¬ d.Within i p) :
    ofNode (d.append p hp kind) i = ofNode d i := by
  let Apart (j : Nat) : Prop := j < d.size ∧ (kind.isElement = true → ¬ d.Within j p)
  refine ofNode_congr (S := Apart) (fun j hj => ?_) (fun j hj => ?_) (fun j hj c hc => ?_)
    ⟨hi, hout⟩
  · have hkind := d.kind_append_of_lt hp kind hj.1
    rw [Document.name?, Document.attributes, hkind]
    exact ⟨rfl, rfl⟩
  · rw [Document.elements_append, if_neg]
    rintro ⟨rfl, hkind⟩
    exact hj.2 hkind .here
  · have hchild := Document.mem_children_of_mem_elements hc
    refine ⟨(Document.child_lt hchild).2, fun hkind hwithin => hj.2 hkind ?_⟩
    exact (Document.Within.of_parent? (hd.mem_children.mp hchild)).trans hwithin

theorem Element.ofNode_extendText (id : Nat) (more : String) :
    ofNode (d.extendText id more) i = ofNode d i := by
  refine ofNode_congr (S := fun _ => True) (fun j _ => ?_) (fun j _ => ?_) (fun _ _ _ _ => trivial)
    trivial
  · exact ⟨d.name?_extendText id more j, d.attributes_extendText id more j⟩
  · exact Document.elements_extendText id more j

end Growth

end Xml

namespace Markup.Builder.Sound

variable {b : Builder} (h : b.Sound)
include h

/-- The open elements have falling numbers, all of them beyond the root. -/
theorem pairwise_opened : (b.opened ++ [0]).Pairwise (· > ·) :=
  h.path ▸ b.document.pairwise_ancestors b.current

theorem lt_of_mem_outer {k i : Nat} {outer : List Nat} (hopened : b.opened = k :: outer)
    (hi : i ∈ outer) : i < k := by
  have hpath := h.pairwise_opened
  rw [hopened, List.cons_append] at hpath
  exact (List.pairwise_cons.mp hpath).1 i (List.mem_append_left _ hi)

theorem opened_pos {i : Nat} (hi : i ∈ b.opened) : 0 < i :=
  (List.pairwise_append.mp h.pairwise_opened).2.2 i hi 0 (List.mem_singleton_self 0)

/-- The current node is in none but the open elements. -/
theorem not_within_current {i : Nat} (hi : i ∉ b.opened) (hpos : 0 < i) :
    ¬ b.document.Within i b.current := by
  intro hwithin
  have hpath : i ∈ b.current :: b.document.ancestors b.current := by
    by_cases hcurrent : i = b.current
    · exact hcurrent ▸ List.mem_cons_self
    · exact List.mem_cons_of_mem _ (Document.mem_ancestors_iff.mpr ⟨hwithin, hcurrent⟩)
  rw [h.path] at hpath
  obtain hopened | hroot := List.mem_append.mp hpath
  · exact hi hopened
  · exact absurd (List.mem_singleton.mp hroot) (Nat.ne_of_gt hpos)

/-- The innermost open element is the last child of the place around it. -/
theorem getLast?_children_headD {k : Nat} {outer : List Nat} (hopened : b.opened = k :: outer) :
    (b.document.children (outer.headD 0)).getLast? = some k := by
  have hchain := isChain_path h
  rw [Builder.path, hopened, List.reverse_cons] at hchain
  cases outer with
  | nil => exact (List.isChain_cons_cons.mp hchain).1
  | cons p rest =>
      rw [List.reverse_cons, List.append_assoc, ← List.cons_append] at hchain
      exact (List.isChain_cons_cons.mp (List.isChain_append.mp hchain).2.1).1

end Markup.Builder.Sound

namespace Xml

open Harvest.Markup Harvest.Text

def finished (b : Builder) (i : Nat) : List Element :=
  ((b.document.elements i).filter (· ∉ b.opened)).map (Element.ofNode b.document)

/-- The element that an open node stands for, as far as it is complete. -/
def frame (b : Builder) (i : Nat) : Element :=
  ⟨(b.document.name? i).getD "", .ofList (b.document.attributes i), finished b i⟩

/-- Both loops have come to the same place: the open elements are the open nodes, which bear the
names that are still to be closed, and the first element that is complete at the top is the root. -/
structure Mirrors (names : List (List Char)) (b : Builder) (n : Nesting) : Prop where
  sound : b.Sound
  names : b.opened.map b.document.name? =
    names.map fun name => some (lowerAscii (String.ofList name))
  opened : n.opened = b.opened.map (frame b)
  root : n.root = (finished b 0).head?

section Steps

variable {b b' : Builder} {n : Nesting} {names : List (List Char)}

theorem finished_congr {i : Nat} (helements : (b'.document.elements i).filter (· ∉ b'.opened) =
      (b.document.elements i).filter (· ∉ b.opened))
    (hnodes : ∀ c ∈ b.document.elements i, c ∉ b.opened →
      Element.ofNode b'.document c = Element.ofNode b.document c) :
    finished b' i = finished b i := by
  unfold finished
  rw [helements]
  refine List.map_congr_left fun c hc => ?_
  obtain ⟨hc, hopen⟩ := List.mem_filter.mp hc
  exact hnodes c hc (of_decide_eq_true hopen)

theorem frame_congr {i : Nat} (hkind : b'.document.name? i = b.document.name? i ∧
      b'.document.attributes i = b.document.attributes i)
    (hfinished : finished b' i = finished b i) : frame b' i = frame b i := by
  rw [frame, hkind.1, hkind.2, hfinished]
  rfl

/-- Whatever is added that is no element, nothing of the elements changes. -/
theorem Mirrors.of_same (h : Mirrors names b n) (hsound : b'.Sound) (hopened : b'.opened = b.opened)
    (hkind : ∀ i, i < b.document.size → b'.document.name? i = b.document.name? i ∧
      b'.document.attributes i = b.document.attributes i)
    (helements : ∀ i, b'.document.elements i = b.document.elements i)
    (hnodes : ∀ i, i < b.document.size →
      Element.ofNode b'.document i = Element.ofNode b.document i) : Mirrors names b' n := by
  have hfinished (i : Nat) : finished b' i = finished b i := by
    refine finished_congr (by rw [helements, hopened]) fun c hc _ => hnodes c ?_
    exact (Document.child_lt (Document.mem_children_of_mem_elements hc)).2
  refine ⟨hsound, ?_, ?_, ?_⟩
  · rw [hopened, ← h.names]
    exact List.map_congr_left fun i hi => (hkind i (b.opened_lt i hi)).1
  · rw [hopened, h.opened]
    refine List.map_congr_left fun i hi => ?_
    exact (frame_congr (hkind i (b.opened_lt i hi)) (hfinished i)).symm
  · rw [hfinished, h.root]

theorem Mirrors.append (h : Mirrors names b n) {kind : NodeKind} (hkind : kind.isElement = false)
    (hsound : (b.append kind).Sound) : Mirrors names (b.append kind) n := by
  refine h.of_same hsound rfl (fun i hi => ?_) (fun i => ?_) fun i hi => ?_
  · rw [Builder.document_append, Document.name?, Document.attributes,
      b.document.kind_append_of_lt b.current_lt kind hi]
    exact ⟨rfl, rfl⟩
  · rw [Builder.document_append, Document.elements_append, if_neg]
    rintro ⟨-, helement⟩
    rw [hkind] at helement
    cases helement
  · refine Element.ofNode_append h.sound.document.preorder b.current_lt kind hi fun helement => ?_
    rw [hkind] at helement
    cases helement

theorem Mirrors.extendText (h : Mirrors names b n) (hsound : b'.Sound)
    (hopened : b'.opened = b.opened) {last : Nat} {content : String}
    (hdocument : b'.document = b.document.extendText last content) : Mirrors names b' n := by
  refine h.of_same hsound hopened (fun i _ => ?_) (fun i => ?_) fun i _ => ?_
  · rw [hdocument]
    exact ⟨Document.name?_extendText .., Document.attributes_extendText ..⟩
  · rw [hdocument, Document.elements_extendText]
  · rw [hdocument, Element.ofNode_extendText]

theorem Mirrors.text (h : Mirrors names b n) (content : String) :
    Mirrors names (b.text content) n := by
  have hsound := h.sound.text content
  obtain hsame | happend | ⟨last, hdocument, hopened⟩ := b.text_cases content
  · rw [hsame]
    exact h
  · rw [happend] at hsound ⊢
    exact h.append rfl hsound
  · exact h.extendText hsound hopened hdocument

theorem Mirrors.comment (h : Mirrors names b n) (content : String) :
    Mirrors names (b.comment content) n :=
  h.append rfl (h.sound.comment content)

def started (name : List Char) (attributes : List Attribute) : Element :=
  ⟨lowerAscii (String.ofList name),
    .ofList (attributes.map fun (key, value) => (lowerAscii key, value)), []⟩

/-- An element that is opened is not complete, and those around it are as far as they were. -/
theorem Mirrors.openElement (h : Mirrors names b n) (name : List Char)
    (attributes : List Attribute) :
    Mirrors (name :: names) (b.openElement (String.ofList name) attributes)
      { n with opened := started name attributes :: n.opened } := by
  let kind := (NodeKind.element (String.ofList name) attributes).lowered
  have hold {i : Nat} (hi : i < b.document.size) :
      (b.openElement (String.ofList name) attributes).document.kind i = b.document.kind i :=
    b.document.kind_append_of_lt b.current_lt kind hi
  have hnew : (b.openElement (String.ofList name) attributes).document.kind b.document.size =
      kind := b.document.kind_append_size b.current b.current_lt kind
  have hfinished {i : Nat} (hi : i < b.document.size) :
      finished (b.openElement (String.ofList name) attributes) i = finished b i := by
    refine finished_congr ?_ fun c hc hopen => ?_
    · -- The new element is open, and no older one is opened with it.
      have hsame : (b.document.elements i).filter (· ∉ b.document.size :: b.opened) =
          (b.document.elements i).filter (· ∉ b.opened) := by
        refine List.filter_congr fun c hc => ?_
        have hlt := (Document.child_lt (Document.mem_children_of_mem_elements hc)).2
        simp [Nat.ne_of_lt hlt]
      show ((b.document.append b.current b.current_lt kind).elements i).filter
          (· ∉ b.document.size :: b.opened) = _
      rw [Document.elements_append, ← hsame]
      split
      · rw [List.filter_append]
        simp
      · rfl
    · have hchild := Document.child_lt (Document.mem_children_of_mem_elements hc)
      refine Element.ofNode_append h.sound.document.preorder b.current_lt kind hchild.2 fun _ => ?_
      exact h.sound.not_within_current hopen (Nat.lt_of_le_of_lt (Nat.zero_le i) hchild.1)
  have hempty : finished (b.openElement (String.ofList name) attributes) b.document.size = [] := by
    have hchildren : (b.openElement (String.ofList name) attributes).document.children
        b.document.size = [] := by
      rw [Builder.document_openElement, Builder.document_append, Document.children_append,
        if_neg (Nat.ne_of_gt b.current_lt), b.document.children_of_size_le (Nat.le_refl _)]
    rw [finished, Document.elements, hchildren]
    rfl
  refine ⟨h.sound.openElement _ _, ?_, ?_, ?_⟩
  · rw [Builder.opened_openElement, List.map_cons, List.map_cons, ← h.names]
    refine congrArg₂ List.cons ?_ (List.map_congr_left fun i hi => ?_)
    · rw [Document.name?, hnew]
      rfl
    · rw [Document.name?, hold (b.opened_lt i hi)]
      rfl
  · rw [Builder.opened_openElement, List.map_cons, h.opened]
    refine congrArg₂ List.cons ?_ (List.map_congr_left fun i hi => ?_)
    · rw [frame, hempty, Document.name?, Document.attributes, hnew]
      rfl
    · have hi := b.opened_lt i hi
      refine (frame_congr ?_ (hfinished hi)).symm
      rw [Document.name?, Document.attributes, hold hi]
      exact ⟨rfl, rfl⟩
  · rw [hfinished b.document.size_pos]
    exact h.root

/-- An innermost element is complete as far as it is open: none of its children is. -/
theorem frame_innermost (h : b.Sound) {k : Nat} {outer : List Nat}
    (hopened : b.opened = k :: outer) : frame b k = Element.ofNode b.document k := by
  have hclosed : (b.document.elements k).filter (· ∉ b.opened) = b.document.elements k := by
    refine List.filter_eq_self.mpr fun c hc => decide_eq_true fun hopen => ?_
    have hlt := (Document.child_lt (Document.mem_children_of_mem_elements hc)).1
    rw [hopened] at hopen
    rcases List.mem_cons.mp hopen with rfl | houter
    · exact Nat.lt_irrefl _ hlt
    · exact Nat.lt_asymm hlt (h.lt_of_mem_outer hopened houter)
  rw [frame, finished, hclosed, Element.ofNode_eq]

/-- When the innermost element ends, the place around it has it as its last child, and all others
are as they were. -/
theorem finished_closeCurrent (h : b.Sound) {k : Nat} {outer : List Nat}
    (hopened : b.opened = k :: outer) (i : Nat) : finished b.closeCurrent i =
      if i = outer.headD 0 then finished b i ++ [Element.ofNode b.document k]
      else finished b i := by
  have houter : k ∉ outer := fun hk => Nat.lt_irrefl k (h.lt_of_mem_outer hopened hk)
  have hother {cs : List Nat} (hcs : k ∉ cs) :
      cs.filter (· ∉ outer) = cs.filter (· ∉ k :: outer) := by
    refine List.filter_congr fun c hc => ?_
    have hne : c ≠ k := fun heq => hcs (heq ▸ hc)
    simp [hne]
  have hlast := h.getLast?_children_headD hopened
  have hopen : b.closeCurrent.opened = outer := by
    rw [Builder.opened_closeCurrent, hopened, List.tail_cons]
  rw [finished, finished, Builder.document_closeCurrent, hopen, hopened]
  split
  · next hi =>
    subst hi
    obtain ⟨before, hchildren⟩ := List.getLast?_eq_some_iff.mp hlast
    have hnodup := (h.document.preorder.pairwise_children (outer.headD 0)).nodup
    rw [hchildren] at hnodup
    have hk : k ∉ before.filter b.document.isElement := fun hk =>
      (List.nodup_append.mp hnodup).2.2 k (List.mem_of_mem_filter hk) k
        (List.mem_singleton_self k) rfl
    have helement : b.document.isElement k = true := h.opened k (hopened ▸ List.mem_cons_self)
    have helements : b.document.elements (outer.headD 0) =
        before.filter b.document.isElement ++ [k] := by
      rw [Document.elements, hchildren, List.filter_append, List.filter_singleton, helement]
      rfl
    rw [helements, List.filter_append, List.filter_append, hother hk]
    simp [houter]
  · next hi =>
    have hk : k ∉ b.document.elements i := fun hk => by
      have hparent := h.document.preorder.mem_children.mp
        (Document.mem_children_of_mem_elements hk)
      rw [h.document.preorder.mem_children.mp (List.mem_of_getLast? hlast)] at hparent
      exact hi (Option.some.inj hparent).symm
    rw [hother hk]

/-- An end tag closes the innermost element in both loops. -/
theorem Mirrors.closeCurrent {name : List Char} (h : Mirrors (name :: names) b n) :
    ∃ e outer, n.opened = e :: outer ∧
      Mirrors names b.closeCurrent (Nesting.attach { n with opened := outer } e) := by
  have hnames := h.names
  cases hopened : b.opened with
  | nil =>
      rw [hopened] at hnames
      cases hnames
  | cons k outer =>
      have hfinished := finished_closeCurrent h.sound hopened
      rw [hopened, List.map_cons, List.map_cons] at hnames
      have hopen := h.opened
      rw [hopened, List.map_cons] at hopen
      have htail : b.closeCurrent.opened = outer := by
        rw [Builder.opened_closeCurrent, hopened, List.tail_cons]
      have hrest : b.closeCurrent.opened.map b.closeCurrent.document.name? =
          names.map fun name => some (lowerAscii (String.ofList name)) := by
        rw [htail]
        exact (List.cons.inj hnames).2
      refine ⟨_, _, hopen, h.sound.closeCurrent, hrest, ?_, ?_⟩
      · rw [htail]
        cases outer with
        | nil => rfl
        | cons p rest =>
            -- Only the element around it gets a child; the others are further out.
            have hp : finished b.closeCurrent p = finished b p ++ [frame b k] := by
              rw [hfinished, List.headD_cons, if_pos rfl, frame_innermost h.sound hopened]
            have hframe : frame b.closeCurrent p =
                { frame b p with children := (frame b p).children ++ [frame b k] } := by
              rw [frame, hp]
              rfl
            rw [List.map_cons, List.map_cons, hframe]
            refine congrArg (_ :: ·) (List.map_congr_left fun i hi => ?_)
            have hlt := h.sound.closeCurrent.lt_of_mem_outer htail hi
            have hsame : finished b.closeCurrent i = finished b i := by
              rw [hfinished, List.headD_cons, if_neg (Nat.ne_of_lt hlt)]
            have hframe : frame b.closeCurrent i = frame b i := frame_congr ⟨rfl, rfl⟩ hsame
            exact hframe.symm
      · cases outer with
        | nil =>
            show n.root.or (some (frame b k)) = _
            rw [hfinished, List.headD_nil, if_pos rfl, h.root, frame_innermost h.sound hopened,
              List.head?_append]
            rfl
        | cons p rest =>
            have hpos := h.sound.opened_pos (i := p) (by simp [hopened])
            show n.root = _
            rw [hfinished, List.headD_cons, if_neg (Nat.ne_of_lt hpos), h.root]

end Steps

section Events

variable {names : List (List Char)} {b b' : Builder} {n : Nesting}

theorem ofTag_eq_ok {tag : Tag} {attributes : List Attribute}
    (h : resolveAttributes true (tag.attributes true) = .ok attributes) :
    Element.ofTag tag = .ok (started tag.name attributes) := by
  rw [Element.ofTag, h]
  rfl

/-- Both loops take an event to the same place. -/
theorem Mirrors.takeEvent {names' : List (List Char)} {event : Event} (h : Mirrors names b n)
    (hnames : event.names? names = some names') (hb : takeEvent true b event = .ok b') :
    ∃ n', n.takeEvent event = .ok n' ∧ Mirrors names' b' n' := by
  cases event with
  | startTag tag =>
      cases hnames
      obtain ⟨attributes, hattributes, hb⟩ := bind_eq_ok.mp hb
      cases hb
      refine ⟨_, ?_, h.openElement tag.name attributes⟩
      rw [Nesting.takeEvent, ofTag_eq_ok hattributes]
      rfl
  | emptyTag tag =>
      cases hnames
      obtain ⟨b₁, hopen, hb⟩ := bind_eq_ok.mp hb
      cases hb
      obtain ⟨attributes, hattributes, hopen⟩ := bind_eq_ok.mp hopen
      cases hopen
      -- An empty tag is a start tag with the end tag at once behind it.
      obtain ⟨e, outer, hopened, hclosed⟩ := (h.openElement tag.name attributes).closeCurrent
      obtain ⟨rfl, rfl⟩ := List.cons.inj hopened
      refine ⟨_, ?_, hclosed⟩
      rw [Nesting.takeEvent, ofTag_eq_ok hattributes]
      rfl
  | endTag name =>
      cases names with
      | nil => cases hnames
      | cons expected outer =>
          rw [Event.names?] at hnames
          split at hnames
          · next hname =>
            cases hnames
            subst hname
            obtain ⟨e, rest, hopened, hclosed⟩ := h.closeCurrent
            have hb' : b' = b.closeCurrent := by
              have hmap := h.names
              cases hbopened : b.opened with
              | nil => rw [hbopened] at hmap; cases hmap
              | cons i inner =>
                  rw [hbopened, List.map_cons, List.map_cons] at hmap
                  have hclose := Builder.closeElement?_innermost hbopened (List.cons.inj hmap).1
                  rw [Xml.takeEvent, hclose] at hb
                  exact (Except.ok.inj hb).symm
            subst hb'
            refine ⟨_, ?_, hclosed⟩
            rw [Nesting.takeEvent, hopened]
          · cases hnames
  | text raw =>
      cases hnames
      obtain ⟨content, -, hb⟩ := bind_eq_ok.mp hb
      cases hb
      exact ⟨n, rfl, h.text content⟩
  | cdata content =>
      cases hnames
      cases hb
      exact ⟨n, rfl, h.text _⟩
  | comment content =>
      cases hnames
      cases hb
      exact ⟨n, rfl, h.comment _⟩
  | aside =>
      cases hnames
      cases hb
      exact ⟨n, rfl, h⟩

theorem Mirrors.takeEvents {es : List Event} (h : Mirrors names b n) (hnested : Nested names es)
    (hb : takeEvents true b es = .ok b') :
    ∃ n' names', es.foldlM Nesting.takeEvent n = .ok n' ∧ Mirrors names' b' n' := by
  induction es generalizing names b n with
  | nil =>
      cases hb
      exact ⟨n, names, rfl, h⟩
  | cons event es ih =>
      obtain ⟨next, hnext, hb⟩ := bind_eq_ok.mp hb
      obtain ⟨names', hnames, hnested⟩ := hnested
      obtain ⟨n', hn', h'⟩ := h.takeEvent hnames hnext
      obtain ⟨last, names'', hlast, hmirrors⟩ := ih h' hnested hb
      exact ⟨last, names'', bind_eq_ok.mpr ⟨n', hn', hlast⟩, hmirrors⟩

end Events

theorem mirrors_empty : Mirrors [] Builder.empty ⟨[], none⟩ where
  sound := Builder.sound_empty
  names := rfl
  opened := rfl
  root := rfl

/-- What an element has of the node that it stands for: its name, the last value under each name,
and the elements of the nodes below in order. -/
structure Element.StandsFor (e : Element) (d : Document) (i : Nat) : Prop where
  tag : d.name? i = some e.tag
  attributes : ∀ key, e.attribute? key = (d.attributes i).reverse.lookup key
  children : e.children = (d.elements i).map (Element.ofNode d)

theorem Element.standsFor_ofNode {d : Document} {i : Nat} (h : d.isElement i = true) :
    (ofNode d i).StandsFor d i where
  tag := by
    rw [ofNode_eq, Document.name?]
    rw [Document.isElement] at h
    cases hkind : d.kind i with
    | element name attributes => rfl
    | root | text _ | comment _ => rw [hkind] at h; cases h
  attributes key := by
    rw [ofNode_eq]
    exact SortedMap.get?_ofList _ key
  children := by rw [ofNode_eq]

/-- A text that is well formed yields the element of the first top-level element of its document,
and is without a root if there is none. -/
theorem parse_element_of_strict (source : String) (d : Document)
    (h : parse true source = .ok d) :
    (Element.parse source = match (d.elements 0).head? with
      | some i => .ok (.ofNode d i)
      | none => .error .missingRoot) ∧
      ∀ i, d.isElement i = true → (Element.ofNode d i).StandsFor d i := by
  refine ⟨?_, fun i => Element.standsFor_ofNode⟩
  obtain ⟨es, last, hevents, htaken, hopen, rfl⟩ := parse_eq_ok_iff.mp h
  obtain ⟨n, names, hn, hmirrors⟩ := mirrors_empty.takeEvents (nested_eventsFrom rfl hevents) htaken
  -- Nothing is open in the end, so everything at the top is complete.
  have hclosed := hmirrors.sound.openName?_eq_none_iff.mp (hopen rfl)
  have hopened : n.opened = [] := by rw [hmirrors.opened, hclosed, List.map_nil]
  have hroot : n.root = (last.document.elements 0).head?.map (.ofNode last.document) := by
    have hall : (last.document.elements 0).filter (· ∉ last.opened) = last.document.elements 0 := by
      rw [hclosed]
      exact List.filter_eq_self.mpr fun c _ => by simp
    rw [hmirrors.root, finished, hall, List.head?_map]
  unfold Element.parse
  rw [hevents]
  simp only [hn, Except.mapError, bind, Except.bind, hopened, hroot]
  cases (last.document.elements 0).head? <;> rfl

/-- A text with two elements at the top, of which the first has capitals, a key in two spellings,
character data and an element in it. -/
def sampleForest : String := "<!--c--><A x='1' X='2'>t<b/></A><c/>"

/-- The first one counts, with the last value of its key. -/
theorem parse_element_of_strict_forest :
    ∃ d, parse true sampleForest = .ok d ∧ (d.elements 0).length = 2 ∧
      ∃ e, Element.parse sampleForest = .ok e ∧ e.tag = "a" ∧ e.attribute? "x" = some "2" ∧
        e.children.map (·.tag) = ["b"] := by
  have hparse : (parse true sampleForest).toOption.map (fun d =>
      ((d.elements 0).length, (d.elements 0).head?.map fun i =>
        (d.name? i, (d.attributes i).reverse.lookup "x",
          (d.elements i).map fun c => (d.name? c).getD ""))) =
      some (2, some (some "a", some "2", ["b"])) := by decide +kernel
  cases hd : parse true sampleForest with
  | error problem =>
      rw [hd] at hparse
      cases hparse
  | ok d =>
      rw [hd] at hparse
      obtain ⟨hlength, hfirst⟩ := Prod.mk.inj (Option.some.inj hparse)
      obtain ⟨i, hi, hnode⟩ := Option.map_eq_some_iff.mp hfirst
      obtain ⟨hname, hrest⟩ := Prod.mk.inj hnode
      obtain ⟨hvalue, hchildren⟩ := Prod.mk.inj hrest
      obtain ⟨helement, hstands⟩ := parse_element_of_strict sampleForest d hd
      rw [hi] at helement
      have he := hstands i (Document.isElement_of_mem_elements (List.mem_of_head? hi))
      refine ⟨d, rfl, hlength, .ofNode d i, helement, ?_, ?_, ?_⟩
      · exact Option.some.inj (he.tag.symm.trans hname)
      · rw [he.attributes, hvalue]
      · rw [he.children, List.map_map, ← hchildren]
        refine List.map_congr_left fun c _ => ?_
        rw [Function.comp_apply, Element.ofNode_eq]

end Xml

end Harvest
