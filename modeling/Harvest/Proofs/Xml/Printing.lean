import Harvest.Proofs.Markup.Copy
import Harvest.Proofs.Readers
import Harvest.Proofs.Xml.Tags
import Mathlib.Data.List.TakeWhile

/-!
Strict reading undoes printing.

The markup of a node consists of certain events, one or two for each node at and below it. It is
read as these events wherever it stands, with one exception: character data goes on up to the next
bracket, so a text must not stand before another text. In a document it never does. To take the
events is to copy the node, step by step.
-/

namespace Harvest.Xml

open Harvest.Markup Harvest.Text

/-- What a node must be so that its markup can be read: its names are words that tags can hold, no
two attributes of an element have the same name, and a comment does not hold its own end. -/
def Printable : NodeKind → Prop
  | .element name attributes =>
    isName name = true ∧ (∀ a ∈ attributes, isName a.1 = true) ∧ (attributes.map (·.1)).Nodup
  | .comment content => ¬ "-->".toList <:+: content.toList
  | _ => True

instance : DecidablePred Printable
  | .element name attributes => inferInstanceAs (Decidable (isName name = true ∧
      (∀ a ∈ attributes, isName a.1 = true) ∧ (attributes.map (·.1)).Nodup))
  | .comment content => inferInstanceAs (Decidable (¬ "-->".toList <:+: content.toList))
  | .root | .text _ => .isTrue trivial

def printedEvents (d : Document) (id : Nat) : List Event :=
  let inner := (d.children id).attach.flatMap fun ⟨c, _h⟩ => printedEvents d c
  match d.kind id with
  | .root => inner
  | .element name attributes =>
    if (d.children id).isEmpty then [.emptyTag ⟨tagChars name attributes⟩]
    else .startTag ⟨tagChars name attributes⟩ :: (inner ++ [.endTag name.toList])
  | .text content => [.text (content.toList.flatMap escapeTextChar)]
  | .comment content => [.comment content.toList]
  termination_by d.size - id
  decreasing_by
    have := Document.child_lt _h; omega

theorem printedEvents_eq (d : Document) (k : Nat) : printedEvents d k = match d.kind k with
    | .root => (d.children k).flatMap (printedEvents d)
    | .element name attributes =>
      if d.children k = [] then [.emptyTag ⟨tagChars name attributes⟩]
      else .startTag ⟨tagChars name attributes⟩ ::
        ((d.children k).flatMap (printedEvents d) ++ [.endTag name.toList])
    | .text content => [.text (content.toList.flatMap escapeTextChar)]
    | .comment content => [.comment content.toList] := by
  rw [printedEvents, List.flatMap_subtype (g := printedEvents d) fun _ _ => rfl,
    List.unattach_attach]
  simp only [List.isEmpty_iff]

theorem toList_toMarkup (d : Document) (k : Nat) : (d.toMarkup k).toList = match d.kind k with
    | .root => (d.children k).flatMap fun c => (d.toMarkup c).toList
    | .element name attributes =>
      if d.children k = [] then '<' :: (tagChars name attributes ++ ['/', '>'])
      else '<' :: (tagChars name attributes ++ ['>'] ++
        ((d.children k).flatMap (fun c => (d.toMarkup c).toList) ++
          '<' :: '/' :: (name.toList ++ ['>'])))
    | .text content => content.toList.flatMap escapeTextChar
    | .comment content => '<' :: '!' :: '-' :: '-' :: (content.toList ++ ['-', '-', '>']) := by
  rw [Document.toMarkup, List.map_subtype (g := d.toMarkup) fun _ _ => rfl, List.unattach_attach]
  cases d.kind k with
  | root => simp [List.flatMap_map]
  | element name attributes =>
      simp only [List.isEmpty_iff]
      split <;> simp [toList_printTagStart, List.flatMap_map]
  | text content => simp [escapeText]
  | comment content => simp

/-- Behind a bracket these characters and no more are read as an event, which turns the names to be
closed into others. -/
def Spans (names : List (List Char)) (cs : List Char) (event : Event) (names' : List (List Char)) :
    Prop :=
  ∀ rest, readMarkup (some names) (cs ++ rest) = .ok (event, some names', cs.length)

section Markup

variable {names : List (List Char)} {name : String} {attributes : List Attribute}

/-- The first bracket behind which a construct can end is found. -/
theorem closeIndex_append {done : List Char → Bool} {cs seen : List Char}
    (hdone : done (cs.reverse ++ seen) = true)
    (hearlier : ∀ before behind, cs = before ++ '>' :: behind →
      done (before.reverse ++ seen) = false) (rest : List Char) :
    closeIndex done seen (cs ++ '>' :: rest) = some (seen.length + cs.length) := by
  induction cs generalizing seen with
  | nil =>
      rw [List.nil_append, closeIndex, if_pos]
      · rfl
      · exact hdone
  | cons c cs ih =>
      have hgo : (c == '>' && done seen) = false := by
        by_cases hc : c = '>'
        · have hfirst : done seen = false := hearlier [] cs (by rw [hc]; rfl)
          rw [hfirst, Bool.and_false]
        · rw [beq_eq_false_iff_ne.mpr hc, Bool.false_and]
      rw [List.cons_append, closeIndex, hgo, if_neg Bool.false_ne_true, ih]
      · simp only [List.length_cons]
        congr 1
        omega
      · rw [← hdone, List.reverse_cons, List.append_assoc, List.singleton_append]
      · intro before behind hcs
        rw [← hearlier (c :: before) behind (by rw [hcs, List.cons_append]), List.reverse_cons,
          List.append_assoc, List.singleton_append]

/-- What begins with a name is a tag, and reaches up to the first bracket outside of quotes. -/
theorem readMarkup_name (hname : isName name = true) {content behind : List Char}
    (hcontent : content = name.toList ++ behind) (hplain : Plain content)
    (opened : Option (List (List Char))) (rest : List Char) :
    readMarkup opened (content ++ '>' :: rest) =
      match content.getLast? with
      | some '/' => .ok (.emptyTag ⟨content.dropLast⟩, opened, content.length + 1)
      | _ =>
        .ok (.startTag ⟨content⟩, opened.map (Tag.name ⟨content⟩ :: ·), content.length + 1) := by
  have hindex : tagIndex none 0 (content ++ '>' :: rest) = some content.length := by
    rw [hplain, Nat.zero_add]
    rfl
  obtain ⟨c, cs, hchars, -, hc, -⟩ := exists_of_isName hname
  rw [hchars, List.cons_append] at hcontent
  have hfirst : content ++ '>' :: rest = c :: (cs ++ behind ++ '>' :: rest) := by rw [hcontent]; rfl
  unfold readMarkup
  split
  · next h => rw [hfirst] at h; cases h
  · next h => rw [hfirst] at h; cases h; cases hc
  · next h => rw [hfirst] at h; cases h; cases hc
  · next h => rw [hfirst] at h; cases h; cases hc
  · rw [hindex]
    dsimp only
    generalize hcut : (content ++ '>' :: rest).take content.length = cut
    obtain rfl : content = cut := List.take_left.symm.trans hcut
    rfl

theorem spans_startTag (hname : isName name = true)
    (hnames : ∀ a ∈ attributes, isName a.1 = true) (names : List (List Char)) :
    Spans names (tagChars name attributes ++ ['>']) (.startTag ⟨tagChars name attributes⟩)
      (name.toList :: names) := by
  intro rest
  have hcontent : tagChars name attributes = name.toList ++ attributes.flatMap attributeChars := rfl
  rw [List.append_assoc, List.singleton_append,
    readMarkup_name hname hcontent (plain_tagChars hname hnames)]
  split
  · next hslash => exact absurd hslash (getLast?_tagChars hname)
  · rw [name_tagChars hname, Option.map_some, List.length_append, List.length_singleton]

theorem spans_emptyTag (hname : isName name = true)
    (hnames : ∀ a ∈ attributes, isName a.1 = true) (names : List (List Char)) :
    Spans names (tagChars name attributes ++ ['/', '>']) (.emptyTag ⟨tagChars name attributes⟩)
      names := by
  intro rest
  have hplain := (plain_tagChars hname hnames).append (plain_singleton (c := '/') (by decide))
  have hcontent : tagChars name attributes ++ ['/'] =
      name.toList ++ (attributes.flatMap attributeChars ++ ['/']) := List.append_assoc ..
  have hchars : tagChars name attributes ++ ['/', '>'] ++ rest =
      tagChars name attributes ++ ['/'] ++ '>' :: rest := by simp
  rw [hchars, readMarkup_name hname hcontent hplain]
  simp

theorem endName_of_isName (hname : isName name = true) : endName name.toList = name.toList := by
  obtain ⟨c, cs, hchars, -, -, -⟩ := exists_of_isName hname
  have htrimmed : name.toList.reverse.dropWhile isSpace = name.toList.reverse := by
    refine List.dropWhile_eq_self_iff.mpr fun hlength => ?_
    have hlast := List.mem_reverse.mp (List.getElem_mem hlength)
    rw [isSpace_of_isNameChar (isNameChar_of_isName hname _ hlast)]
    exact Bool.false_ne_true
  rw [endName, htrimmed, List.reverse_reverse, hchars]
  rfl

theorem spans_endTag (hname : isName name = true) (names : List (List Char)) :
    Spans (name.toList :: names) ('/' :: (name.toList ++ ['>'])) (.endTag name.toList) names := by
  intro rest
  have hindex : tagIndex none 0 (name.toList ++ '>' :: rest) = some name.toList.length := by
    rw [plain_of_isNameChar (isNameChar_of_isName hname), Nat.zero_add]
    rfl
  rw [List.cons_append, List.append_assoc, List.singleton_append, readMarkup, hindex]
  dsimp only
  rw [List.take_left, endName_of_isName hname, closeName, if_pos rfl]
  simp

/-- A character that is not in the second part is in the first. -/
theorem exists_of_append_eq {cs ds before behind : List Char} {c : Char} (hc : c ∉ ds)
    (h : cs ++ ds = before ++ c :: behind) : ∃ more, cs = before ++ c :: more := by
  obtain ⟨part, -, hds⟩ | ⟨part, hcs, hrest⟩ := List.append_eq_append_iff.mp h
  · exact absurd (hds ▸ List.mem_append_right part List.mem_cons_self) hc
  · cases part with
    | nil =>
        obtain rfl : c :: behind = ds := hrest
        exact absurd List.mem_cons_self hc
    | cons x more =>
        cases hrest
        exact ⟨more, hcs⟩

/-- A comment that does not hold its own end does not end early. -/
theorem not_endsComment {content before behind : List Char} (hcontent : ¬ "-->".toList <:+: content)
    (hsplit : '-' :: '-' :: (content ++ ['-', '-']) = before ++ '>' :: behind) :
    endsComment before.reverse = false := by
  rw [Bool.eq_false_iff]
  intro hends
  unfold endsComment at hends
  split at hends
  · next inner hreverse =>
    have hbefore : before = inner.reverse ++ ['-', '-'] := by
      rw [← before.reverse_reverse, hreverse]
      simp
    have hlength : 2 ≤ inner.reverse.length := by
      rw [List.length_reverse]
      exact of_decide_eq_true hends
    -- The two dashes that open the comment are not among those that end it.
    match hinner : inner.reverse, hlength with
    | a :: b :: rest, _ =>
        rw [hbefore, hinner] at hsplit
        have hcontentSplit : content ++ ['-', '-'] = (rest ++ ['-', '-']) ++ '>' :: behind :=
          (List.cons.inj (List.cons.inj hsplit).2).2
        obtain ⟨more, hmore⟩ := exists_of_append_eq (by decide) hcontentSplit
        exact hcontent ⟨rest, more, by rw [hmore]; simp⟩
  · cases hends

theorem spans_comment {content : List Char} (hcontent : ¬ "-->".toList <:+: content)
    (names : List (List Char)) :
    Spans names ('!' :: '-' :: '-' :: (content ++ ['-', '-', '>'])) (.comment content) names := by
  intro rest
  have hindex : closeIndex endsComment [] ('-' :: '-' :: (content ++ ['-', '-']) ++ '>' :: rest) =
      some (content.length + 4) := by
    rw [closeIndex_append]
    · simp
    · simp [endsComment]
    · intro before behind hsplit
      rw [List.append_nil]
      exact not_endsComment hcontent hsplit
  have hextent : bangExtent ('-' :: '-' :: (content ++ ['-', '-']) ++ '>' :: rest) =
      .ok (some (content.length + 4), .unclosedComment) :=
    congrArg (fun index => Except.ok (index, Fault.unclosedComment)) hindex
  have htake : ('-' :: '-' :: (content ++ ['-', '-']) ++ '>' :: rest).take (content.length + 4) =
      '-' :: '-' :: (content ++ ['-', '-']) := List.take_left' (by simp)
  have hevent : bangEvent ('-' :: '-' :: (content ++ ['-', '-'])) = .ok (.comment content) := by
    simp [bangEvent]
  have hchars : '!' :: '-' :: '-' :: (content ++ ['-', '-', '>']) ++ rest =
      '!' :: ('-' :: '-' :: (content ++ ['-', '-']) ++ '>' :: rest) := by simp
  rw [hchars, readMarkup, hextent]
  dsimp only
  rw [htake, hevent]
  simp

end Markup

/-- These characters, with these names to be closed, are read as these events and to their end,
wherever they stand. -/
def ReadsAs (names : List (List Char)) (cs : List Char) (es : List Event) : Prop :=
  ∀ offset, eventsFrom (some names) offset cs = (es, none)

section Reading

variable {names names' : List (List Char)} {cs rest : List Char} {es : List Event}

theorem readsAs_nil (names : List (List Char)) : ReadsAs names [] [] := fun _ => by rw [eventsFrom]

theorem ReadsAs.markup {event : Event} (hspans : Spans names cs event names')
    (h : ReadsAs names' rest es) : ReadsAs names ('<' :: (cs ++ rest)) (event :: es) := by
  intro offset
  rw [eventsFrom, hspans]
  dsimp only
  rw [List.drop_left, h]

/-- Character data is read up to the next bracket. -/
theorem ReadsAs.text (hne : cs ≠ []) (hcs : '<' ∉ cs) (hrest : ∀ x ∈ rest.head?, x = '<')
    (h : ReadsAs names rest es) : ReadsAs names (cs ++ rest) (.text cs :: es) := by
  intro offset
  obtain ⟨c, cs, rfl⟩ := List.exists_cons_of_ne_nil hne
  obtain ⟨hc, hcs⟩ := not_or.mp (mt List.mem_cons.mpr hcs)
  have hmore : (cs ++ rest).takeWhile (· != '<') = cs :=
    takeWhile_append_of_head? (fun x hx => bne_iff_ne.mpr fun heq => hcs (heq ▸ hx))
      fun x hx => by rw [hrest x hx]; rfl
  rw [List.cons_append, eventsFrom]
  · dsimp only
    rw [hmore, List.drop_left, h]
  · exact fun heq => hc heq.symm

end Reading

/-- Induction over a printable part of a document, from the leaves up. -/
theorem induction_printable {d : Document} (hd : d.WellFormed) {motive : Nat → Prop}
    (text : ∀ k content, d.kind k = .text content → motive k)
    (comment : ∀ k content, d.kind k = .comment content → Printable (d.kind k) → motive k)
    (element : ∀ k name attributes, d.kind k = .element name attributes → Printable (d.kind k) →
      (∀ c ∈ d.children k, motive c) → motive k)
    (k : Nat) (hpos : 0 < k) (hk : k < d.size)
    (h : ∀ j ∈ k :: d.descendants k, Printable (d.kind j)) : motive k := by
  have hself := h k List.mem_cons_self
  cases hkind : d.kind k with
  | root => exact absurd ((hd.root_iff k hk).mp hkind) (Nat.ne_of_gt hpos)
  | text content => exact text k content hkind
  | comment content => exact comment k content hkind hself
  | element name attributes =>
      refine element k name attributes hkind hself fun c hc => ?_
      have hlt := Document.child_lt hc
      refine induction_printable hd text comment element c (Nat.zero_lt_of_lt hlt.1) hlt.2 ?_
      intro j hj
      refine h j (List.mem_cons_of_mem k ?_)
      rw [d.descendants_eq]
      exact List.mem_flatMap.mpr ⟨c, hc, hj⟩
  termination_by d.size - k
  decreasing_by omega

/-- The markup of a node is read as its events, before a bracket at least. -/
def ReadsBack (d : Document) (k : Nat) : Prop :=
  ∀ names rest es, ((d.kind k).isText = true → ∀ x ∈ rest.head?, x = '<') →
    ReadsAs names rest es →
    ReadsAs names ((d.toMarkup k).toList ++ rest) (printedEvents d k ++ es)

def Rebuilds (d : Document) (k : Nat) : Prop :=
  ∀ b : Builder, takeEvents true b (printedEvents d k) = .ok (b.copy d k)

section Nodes

variable {d : Document} {k : Nat} {name : String} {attributes : List Attribute}

/-- What is no character data begins with a bracket. -/
theorem head?_toMarkup (hroot : d.kind k ≠ .root) (htext : (d.kind k).isText = false) :
    (d.toMarkup k).toList.head? = some '<' := by
  rw [toList_toMarkup]
  cases hkind : d.kind k with
  | root => exact absurd hkind hroot
  | text content => rw [hkind] at htext; cases htext
  | comment content => rfl
  | element name attributes => dsimp only; split <;> rfl

/-- Nodes one after the other are read one after the other if no text is next to a text. -/
theorem ReadsAs.children {cs : List Nat} {names : List (List Char)} {rest : List Char}
    {es : List Event} (hroot : ∀ c ∈ cs, d.kind c ≠ .root)
    (hseparate : cs.IsChain fun x y => ¬ ((d.kind x).isText = true ∧ (d.kind y).isText = true))
    (hreads : ∀ c ∈ cs, ReadsBack d c) (hrest : ∀ x ∈ rest.head?, x = '<')
    (h : ReadsAs names rest es) :
    ReadsAs names (cs.flatMap (fun c => (d.toMarkup c).toList) ++ rest)
      (cs.flatMap (printedEvents d) ++ es) := by
  induction cs with
  | nil => exact h
  | cons c cs ih =>
      obtain ⟨hc, hreads⟩ := List.forall_mem_cons.mp hreads
      rw [List.flatMap_cons, List.flatMap_cons, List.append_assoc, List.append_assoc]
      refine hc names _ _ (fun htext => ?_)
        (ih (fun x hx => hroot x (List.mem_cons_of_mem c hx)) hseparate.tail hreads)
      cases cs with
      | nil => exact hrest
      | cons next cs =>
          have hnext : (d.kind next).isText = false := by
            rw [Bool.eq_false_iff]
            exact fun hnext => (List.isChain_cons_cons.mp hseparate).1 ⟨htext, hnext⟩
          have hfirst := head?_toMarkup (hroot next (by simp)) hnext
          rw [List.flatMap_cons, List.append_assoc, List.head?_append, hfirst]
          simp

theorem readsBack_text {content : String} (hkind : d.kind k = .text content) (hne : content ≠ "") :
    ReadsBack d k := by
  intro names rest es hrest h
  rw [toList_toMarkup, printedEvents_eq, hkind]
  refine h.text (fun hnil => ?_) (not_mem_flatMap lt_not_mem_escapeTextChar _) (hrest (hkind ▸ rfl))
  obtain ⟨c, cs, hcs⟩ := List.exists_cons_of_ne_nil (mt String.toList_eq_nil_iff.mp hne)
  have hc := List.flatMap_eq_nil_iff.mp hnil c (hcs ▸ List.mem_cons_self)
  exact (denotes_escapeTextChar c).ne_nil hc

theorem readsBack_comment {content : String} (hkind : d.kind k = .comment content)
    (h : Printable (d.kind k)) : ReadsBack d k := by
  intro names rest es _ hrest
  rw [hkind] at h
  rw [toList_toMarkup, printedEvents_eq, hkind]
  exact hrest.markup (spans_comment h names)

/-- An element is read from its start tag through its children to its end tag, which bears its
name. -/
theorem readsBack_element (hd : d.WellFormed) (hkind : d.kind k = .element name attributes)
    (h : Printable (d.kind k)) (hchildren : ∀ c ∈ d.children k, ReadsBack d c) :
    ReadsBack d k := by
  intro names rest es _ hrest
  rw [hkind] at h
  obtain ⟨hname, hnames, -⟩ := h
  rw [toList_toMarkup, printedEvents_eq, hkind]
  dsimp only
  split
  · exact hrest.markup (spans_emptyTag hname hnames names)
  · have hroot : ∀ c ∈ d.children k, d.kind c ≠ .root := fun c hc hroot => by
      have hlt := Document.child_lt hc
      exact Nat.ne_of_gt (Nat.zero_lt_of_lt hlt.1) ((hd.root_iff c hlt.2).mp hroot)
    have hend := hrest.markup (spans_endTag hname names)
    have hinner := hend.children hroot (hd.separate k) hchildren (by simp)
    have hread := hinner.markup (spans_startTag hname hnames names)
    simpa only [List.cons_append, List.append_assoc, List.nil_append] using hread

/-- The markup of a node and of all below it is read as their events. -/
theorem readsBack (hd : d.WellFormed) (hpos : 0 < k) (hk : k < d.size)
    (h : ∀ j ∈ k :: d.descendants k, Printable (d.kind j)) : ReadsBack d k := by
  refine induction_printable hd ?_ ?_ ?_ k hpos hk h
  · exact fun j content hkind => readsBack_text hkind fun hempty => hd.text_ne j (hempty ▸ hkind)
  · exact fun j content hkind hprintable => readsBack_comment hkind hprintable
  · exact fun j name attributes hkind hprintable => readsBack_element hd hkind hprintable

/-- Nodes one after the other are copied one after the other. -/
theorem takeEvents_flatMap {cs : List Nat} (h : ∀ c ∈ cs, Rebuilds d c) (b : Builder) :
    takeEvents true b (cs.flatMap (printedEvents d)) =
      .ok (cs.foldl (fun b c => b.copy d c) b) := by
  induction cs generalizing b with
  | nil => rfl
  | cons c cs ih =>
      obtain ⟨hc, hcs⟩ := List.forall_mem_cons.mp h
      rw [List.flatMap_cons, takeEvents, List.foldlM_append]
      exact bind_eq_ok.mpr ⟨b.copy d c, hc b, ih hcs _⟩

theorem rebuilds_text {content : String} (hkind : d.kind k = .text content) : Rebuilds d k := by
  intro b
  have hcontent := resolveText_flatMap denotes_escapeTextChar content
  rw [printedEvents_eq, hkind, Builder.copy_text hkind]
  refine bind_eq_ok.mpr ⟨b.text content, ?_, rfl⟩
  rw [takeEvent, hcontent]
  rfl

theorem rebuilds_comment {content : String} (hkind : d.kind k = .comment content) :
    Rebuilds d k := by
  intro b
  rw [printedEvents_eq, hkind, Builder.copy_comment hkind]
  refine bind_eq_ok.mpr ⟨b.comment content, ?_, rfl⟩
  rw [takeEvent, String.ofList_toList]

/-- An element that has been opened and filled is closed by its name. -/
theorem closeElement?_foldl_copy (b : Builder) (cs : List Nat) :
    (cs.foldl (fun b c => b.copy d c) (b.openElement name attributes)).closeElement? name =
      some (cs.foldl (fun b c => b.copy d c) (b.openElement name attributes)).closeCurrent := by
  have hfilled : (b.openElement name attributes).Continues
      (cs.foldl (fun b c => b.copy d c) (b.openElement name attributes)) :=
    .foldl (fun c _ b => b.continues_copy d c) _
  refine Builder.closeElement?_innermost hfilled.opened ?_
  rw [hfilled.name? _ (by simp), Builder.document_openElement, Builder.document_append,
    Document.name?, Document.kind_append_size]
  rfl

theorem rebuilds_element (hkind : d.kind k = .element name attributes)
    (h : Printable (d.kind k)) (hchildren : ∀ c ∈ d.children k, Rebuilds d c) : Rebuilds d k := by
  intro b
  rw [hkind] at h
  obtain ⟨hname, hnames, hdistinct⟩ := h
  have hopen := openTag_tagChars hname hnames hdistinct b
  have hfilled := takeEvents_flatMap hchildren (b.openElement name attributes)
  rw [printedEvents_eq, hkind, Builder.copy_element hkind]
  dsimp only
  split
  · next hempty =>
    rw [hempty]
    refine bind_eq_ok.mpr ⟨_, ?_, rfl⟩
    rw [takeEvent, hopen]
    rfl
  · refine bind_eq_ok.mpr ⟨_, hopen, ?_⟩
    rw [List.foldlM_append]
    refine bind_eq_ok.mpr ⟨_, hfilled, bind_eq_ok.mpr ⟨_, ?_, rfl⟩⟩
    rw [takeEvent, String.ofList_toList, closeElement?_foldl_copy]

theorem rebuilds (hd : d.WellFormed) (hpos : 0 < k) (hk : k < d.size)
    (h : ∀ j ∈ k :: d.descendants k, Printable (d.kind j)) : Rebuilds d k := by
  refine induction_printable hd ?_ ?_ ?_ k hpos hk h
  · exact fun j content hkind => rebuilds_text hkind
  · exact fun j content hkind _ => rebuilds_comment hkind
  · exact fun j name attributes hkind hprintable => rebuilds_element hkind hprintable

end Nodes

/-- The markup of an element of a document that has been built is read as the document that holds a
copy of this element, whatever the texts, the values and the other comments hold. -/
theorem parse_toMarkup (steps : List BuildStep) (e : Nat)
    (he : (Builder.run steps).document.isElement e = true)
    (h : ∀ k ∈ e :: (Builder.run steps).document.descendants e,
      Printable ((Builder.run steps).document.kind k)) :
    parse true ((Builder.run steps).document.toMarkup e) =
      .ok ((Builder.run steps).document.subtree e) := by
  have hd := Builder.wellFormed_run steps
  generalize (Builder.run steps).document = d at hd he h
  have hkind : d.kind e ≠ .root ∧ (d.kind e).isText = false := by
    rw [Document.isElement] at he
    cases hkind : d.kind e with
    | element name attributes => exact ⟨nofun, rfl⟩
    | root | text _ | comment _ => rw [hkind] at he; cases he
  have hlt : e < d.size := by
    by_contra hge
    exact hkind.1 (d.kind_of_size_le (Nat.le_of_not_lt hge))
  have hpos : 0 < e := Nat.pos_of_ne_zero fun hzero => hkind.1 ((hd.root_iff e hlt).mpr hzero)
  have hevents : events true (d.toMarkup e) = (printedEvents d e, none) := by
    have hread := readsBack hd hpos hlt h [] [] [] (by simp) (readsAs_nil [])
    rw [List.append_nil, List.append_nil] at hread
    -- The markup begins with a bracket, so there is no byte order mark to pass over.
    have hfirst := head?_toMarkup hkind.1 hkind.2
    obtain ⟨rest, hmarkup⟩ : ∃ rest, (d.toMarkup e).toList = '<' :: rest :=
      ⟨_, (List.cons_head?_tail hfirst).symm⟩
    rw [hmarkup] at hread
    rw [events, hmarkup]
    exact hread 0
  have htaken := rebuilds hd hpos hlt h Builder.empty
  have hclosed : (Builder.empty.copy d e).openName? = none := by
    have hcontinues := Builder.empty.continues_copy d e
    rw [Builder.openName?, Builder.current, hcontinues.opened]
    exact hcontinues.name? 0 Builder.empty.document.size_pos
  rw [Document.subtree, if_neg (Nat.ne_of_gt hpos)]
  exact parse_eq_ok_iff.mpr ⟨_, _, hevents, htaken, fun _ => hclosed, rfl⟩

/-- An element inside another one, with all that has to be escaped in a value and in a text, an
element without children and a comment with dashes at its ends. -/
def sampleShelf : List BuildStep :=
  [.openElement "R" [], .text "&", .openElement "a:B" [("k-1", "\"&'>"), ("_", "<")],
    .text "x</a>&]]>", .openElement "e" [], .closeCurrent, .text "&lt;", .comment "-- >-"]

/-- Quotes, brackets, a reference spelled out and a comment that ends in a hyphen. -/
theorem parse_toMarkup_shelf :
    (Builder.run sampleShelf).document.toMarkup 3 =
        "<a:b k-1=\"&quot;&amp;'&gt;\" _=\"&lt;\">x&lt;/a&gt;&amp;]]&gt;" ++
          "<e/>&amp;lt;<!---- >---></a:b>" ∧
      parse true ((Builder.run sampleShelf).document.toMarkup 3) =
        .ok ((Builder.run sampleShelf).document.subtree 3) ∧
      ((Builder.run sampleShelf).document.subtree 3).size = 6 := by
  refine ⟨?_, parse_toMarkup sampleShelf 3 ?_ ?_, ?_⟩
  · decide +kernel
  · decide +kernel
  · decide +kernel
  · decide +kernel

end Harvest.Xml
