import Harvest.Proofs.Markup.WellFormed

/-!
What every builder keeps.

The open elements, innermost first, are the nodes between the place where a builder builds and the
root. That place is the newest node or stands above it, which is why the next node may be put there
and take the next number.
-/

namespace Harvest.Markup.Builder

open Harvest.Text

@[simp] theorem document_append (b : Builder) (kind : NodeKind) :
    (b.append kind).document = b.document.append b.current b.current_lt kind := rfl

@[simp] theorem opened_append (b : Builder) (kind : NodeKind) :
    (b.append kind).opened = b.opened := rfl

@[simp] theorem current_append (b : Builder) (kind : NodeKind) :
    (b.append kind).current = b.current := rfl

@[simp] theorem document_openElement (b : Builder) (name : String)
    (attributes : List Attribute) : (b.openElement name attributes).document =
      (b.append (NodeKind.element name attributes).lowered).document := rfl

@[simp] theorem opened_openElement (b : Builder) (name : String) (attributes : List Attribute) :
    (b.openElement name attributes).opened = b.document.size :: b.opened := rfl

@[simp] theorem current_openElement (b : Builder) (name : String) (attributes : List Attribute) :
    (b.openElement name attributes).current = b.document.size := rfl

@[simp] theorem document_closeCurrent (b : Builder) :
    b.closeCurrent.document = b.document := rfl

@[simp] theorem opened_closeCurrent (b : Builder) :
    b.closeCurrent.opened = b.opened.tail := rfl

/-- Character data adds nothing, or a text, or more to a text. -/
theorem text_cases (b : Builder) (content : String) :
    b.text content = b ∨ b.text content = b.append (.text content) ∨
      ∃ last, (b.text content).document = b.document.extendText last content ∧
        (b.text content).opened = b.opened := by
  unfold Builder.text
  split
  · exact .inl rfl
  · split
    · next last _ =>
      split
      · exact .inr (.inr ⟨last, rfl, rfl⟩)
      · exact .inr (.inl rfl)
    · exact .inr (.inl rfl)

structure Sound (b : Builder) : Prop where
  document : b.document.WellFormed
  path : b.current :: b.document.ancestors b.current = b.opened ++ [0]
  front : b.document.Within b.current (b.document.size - 1)
  opened : ∀ i ∈ b.opened, (b.document.kind i).isElement = true

theorem sound_empty : empty.Sound where
  document := {
    preorder := {
      parent := by
        intro i hpos hi
        have hsize : empty.document.size = 1 := rfl
        omega
      children := by
        intro p
        rcases p with _ | p
        · rfl
        · rw [Document.children_of_size_le _ (Nat.succ_le_succ (Nat.zero_le p))]
          rfl }
    root_iff := by
      intro i hi
      obtain rfl : i = 0 := Nat.lt_one_iff.mp hi
      exact iff_of_true rfl rfl
    inner := by
      rintro (_ | p) hp
      · exact absurd rfl hp
      · exact absurd (Document.children_of_size_le _ (Nat.succ_le_succ (Nat.zero_le p))) hp
    separate := by
      rintro (_ | p)
      · exact .nil
      · rw [Document.children_of_size_le _ (Nat.succ_le_succ (Nat.zero_le p))]
        exact .nil
    text_ne := by
      rintro (_ | i)
      · exact NodeKind.root_ne_text
      · rw [Document.kind_of_size_le _ (Nat.succ_le_succ (Nat.zero_le i))]
        exact NodeKind.root_ne_text
    lowered := by
      rintro (_ | i)
      · rfl
      · rw [Document.kind_of_size_le _ (Nat.succ_le_succ (Nat.zero_le i))]
        rfl }
  path := by
    have hancestors : empty.document.ancestors empty.current = [] :=
      Document.ancestors_of_parent?_eq_none _ rfl
    rw [hancestors]
    rfl
  front := .here
  opened := by
    intro i hi
    cases hi

variable {b : Builder}

/-- The place where a builder builds can have children. -/
theorem Sound.isInner_current (h : b.Sound) : (b.document.kind b.current).isInner = true := by
  unfold current
  cases hopened : b.opened with
  | nil =>
      rw [List.headD_nil, (h.document.root_iff 0 b.document.size_pos).mpr rfl]
      rfl
  | cons i rest =>
      have hi := h.opened i (hopened ▸ List.mem_cons_self)
      rw [List.headD_cons]
      cases hkind : b.document.kind i <;> simp_all [NodeKind.isElement, NodeKind.isInner]

theorem Sound.append (h : b.Sound) {kind : NodeKind} (hroot : kind ≠ .root)
    (hempty : kind ≠ .text "") (hlowered : kind.lowered = kind)
    (htext : kind.isText = true → ∀ l, (b.document.children b.current).getLast? = some l →
      (b.document.kind l).isText = false) :
    (b.append kind).Sound where
  document := h.document.append b.current_lt h.front h.isInner_current hroot hempty hlowered htext
  path := by
    have hancestors : (b.append kind).document.ancestors b.current =
        b.document.ancestors b.current :=
      b.document.ancestors_append b.current_lt kind b.current_lt
    show b.current :: (b.append kind).document.ancestors b.current = b.opened ++ [0]
    rw [hancestors]
    exact h.path
  front := by
    have hparent : (b.append kind).document.parent? b.document.size = some b.current :=
      b.document.parent?_append_size b.current b.current_lt kind
    have hsize : (b.append kind).document.size - 1 = b.document.size := by
      rw [document_append, Document.size_append, Nat.add_sub_cancel]
    rw [hsize]
    exact .of_parent? hparent
  opened := by
    intro i hi
    rw [document_append, b.document.kind_append_of_lt b.current_lt kind (b.opened_lt i hi)]
    exact h.opened i hi

theorem Sound.append_of_isText_eq_false (h : b.Sound) {kind : NodeKind} (hroot : kind ≠ .root)
    (hlowered : kind.lowered = kind) (htext : kind.isText = false) : (b.append kind).Sound := by
  refine h.append hroot ?_ hlowered fun hkind => ?_
  · rintro rfl
    cases htext
  · rw [htext] at hkind
    cases hkind

theorem Sound.openElement (h : b.Sound) (name : String) (attributes : List Attribute) :
    (b.openElement name attributes).Sound := by
  -- The new node is appended like any other one; only then the builder goes into it.
  have happend : (b.append (NodeKind.element name attributes).lowered).Sound :=
    h.append_of_isText_eq_false (by simp [NodeKind.lowered]) (NodeKind.lowered_lowered _) rfl
  have hparent : (b.openElement name attributes).document.parent? b.document.size =
      some b.current :=
    b.document.parent?_append_size b.current b.current_lt _
  exact {
    document := happend.document
    path := by
      show b.document.size ::
          (b.openElement name attributes).document.ancestors b.document.size =
        b.document.size :: (b.opened ++ [0])
      rw [Document.ancestors_of_parent? _ hparent]
      congr 1
      exact happend.path
    front := by
      have hsize : (b.openElement name attributes).document.size - 1 = b.document.size := by
        rw [document_openElement, document_append, Document.size_append, Nat.add_sub_cancel]
      rw [hsize]
      exact .here
    opened := by
      intro i hi
      rcases List.mem_cons.mp hi with rfl | hi
      · rw [document_openElement, document_append, Document.kind_append_size]
        rfl
      · exact happend.opened i hi }

theorem Sound.closeCurrent (h : b.Sound) : b.closeCurrent.Sound := by
  cases hopened : b.opened with
  | nil =>
      have hsame : b.closeCurrent = b := by
        cases b
        simp_all [Builder.closeCurrent]
      rw [hsame]
      exact h
  | cons i rest =>
      have hcurrent : b.current = i := by rw [current, hopened, List.headD_cons]
      have hclosed : b.closeCurrent.current = rest.headD 0 := by
        rw [current, opened_closeCurrent, hopened, List.tail_cons]
      -- The nodes above the element that is left are the path of the place outside of it.
      have hpath := h.path
      rw [hopened, List.cons_append, hcurrent] at hpath
      have hancestors := (List.cons.inj hpath).2
      obtain ⟨p, hp⟩ : ∃ p, b.document.parent? i = some p := by
        cases hp : b.document.parent? i with
        | none =>
            rw [Document.ancestors_of_parent?_eq_none _ hp] at hancestors
            simp at hancestors
        | some p => exact ⟨p, rfl⟩
      rw [Document.ancestors_of_parent? _ hp] at hancestors
      have hpcurrent : b.closeCurrent.current = p := by
        rw [hclosed]
        cases rest with
        | nil => exact (List.cons.inj hancestors).1.symm
        | cons j rest => exact (List.cons.inj hancestors).1.symm
      have htail : b.closeCurrent.opened = rest := by
        rw [opened_closeCurrent, hopened, List.tail_cons]
      exact {
        document := h.document
        path := by
          rw [hpcurrent, htail]
          exact hancestors
        front := by
          rw [hpcurrent]
          exact (Document.Within.of_parent? hp).trans (hcurrent ▸ h.front)
        opened := fun j hj => h.opened j (List.mem_of_mem_tail hj) }

/-- A builder stays sound when it leaves the innermost of its open elements. -/
theorem Sound.of_opened_append {b' : Builder} (h : b.Sound) (hdocument : b'.document = b.document)
    {inner : List Nat} (hopened : b.opened = inner ++ b'.opened) : b'.Sound := by
  induction inner generalizing b with
  | nil =>
      have hsame : b' = b := by
        cases b
        cases b'
        simp_all
      rw [hsame]
      exact h
  | cons i inner ih =>
      refine ih h.closeCurrent hdocument ?_
      rw [opened_closeCurrent, hopened, List.cons_append, List.tail_cons]

theorem closeElement?_eq_some {name : String} {b' : Builder} (h : b.closeElement? name = some b') :
    b'.document = b.document ∧ ∃ i, b.openedFrom name = i :: b'.opened := by
  unfold closeElement? at h
  split at h
  · cases h
  · next i outer hfrom =>
    cases h
    exact ⟨rfl, i, hfrom⟩

/-- To close the name of the innermost open element is to close just this element. -/
theorem closeElement?_innermost {name : String} {i : Nat} {outer : List Nat}
    (hopened : b.opened = i :: outer) (hname : b.document.name? i = some (lowerAscii name)) :
    b.closeElement? name = some b.closeCurrent := by
  have hfrom : b.openedFrom name = i :: outer := by
    rw [openedFrom, hopened, List.dropWhile_cons_of_neg (by simp [hname])]
  unfold closeElement?
  split
  · next hnil =>
    rw [hfrom] at hnil
    cases hnil
  · next i' outer' hcons =>
    obtain ⟨rfl, rfl⟩ := List.cons.inj (hfrom.symm.trans hcons)
    refine congrArg some ?_
    unfold Builder.closeCurrent
    congr 1
    rw [hopened, List.tail_cons]

theorem Sound.closeElement? (h : b.Sound) {name : String} {b' : Builder}
    (hclose : b.closeElement? name = some b') : b'.Sound := by
  obtain ⟨hdocument, i, hfrom⟩ := closeElement?_eq_some hclose
  -- What is closed is the part before the named element, and that element itself.
  obtain ⟨inner, hinner⟩ : b.openedFrom name <:+ b.opened := List.dropWhile_suffix _
  have hopened : b.opened = (inner ++ [i]) ++ b'.opened := by
    rw [List.append_assoc, List.singleton_append, ← hfrom]
    exact hinner.symm
  exact h.of_opened_append hdocument hopened

theorem Sound.text (h : b.Sound) (content : String) : (b.text content).Sound := by
  unfold Builder.text
  split
  · exact h
  · next hne =>
    have hkind : NodeKind.text content ≠ .text "" := fun heq => hne (NodeKind.text.inj heq)
    split
    · next l hl =>
      split
      · exact {
          document := h.document.extendText l hne
          path := by
            show b.current :: (b.document.extendText l content).ancestors b.current = b.opened ++ [0]
            rw [Document.ancestors_extendText]
            exact h.path
          front := by
            show (b.document.extendText l content).Within b.current
              ((b.document.extendText l content).size - 1)
            rw [Document.size_extendText]
            exact Document.within_extendText h.front
          opened := by
            intro i hi
            have hi := h.opened i hi
            rw [Document.kind_extendText]
            split
            · cases hkind : b.document.kind i <;> simp_all [NodeKind.isElement]
            · exact hi }
      · next hnot =>
        refine h.append NodeKind.root_ne_text.symm hkind rfl fun _ l' hl' => ?_
        rw [hl] at hl'
        cases hl'
        cases hkind : b.document.kind l with
        | text content => exact absurd hkind (hnot content)
        | root | element _ _ | comment _ => rfl
    · next hnone =>
      refine h.append NodeKind.root_ne_text.symm hkind rfl fun _ l' hl' => ?_
      rw [hnone] at hl'
      cases hl'

theorem Sound.comment (h : b.Sound) (content : String) : (b.comment content).Sound :=
  h.append_of_isText_eq_false (by simp) rfl rfl

/-- A builder is inside an element or at the root, which has no name. -/
theorem Sound.openName?_eq_none_iff (h : b.Sound) : b.openName? = none ↔ b.opened = [] := by
  rw [openName?, current]
  cases hopened : b.opened with
  | nil =>
      have hroot := (h.document.root_iff 0 b.document.size_pos).mpr rfl
      rw [List.headD_nil, Document.name?, hroot]
      exact iff_of_true rfl rfl
  | cons i rest =>
      have hi := h.opened i (hopened ▸ List.mem_cons_self)
      rw [List.headD_cons, Document.name?]
      refine iff_of_false ?_ (List.cons_ne_nil i rest)
      cases hkind : b.document.kind i with
      | element name attributes => exact nofun
      | root | text _ | comment _ => rw [hkind] at hi; cases hi

/-- Every step keeps a builder sound. -/
theorem Sound.step (h : b.Sound) (s : BuildStep) : (b.step s).Sound := by
  cases s with
  | openElement name attributes => exact h.openElement name attributes
  | closeCurrent => exact h.closeCurrent
  | closeElement name =>
      show ((b.closeElement? name).getD b).Sound
      cases hclose : b.closeElement? name with
      | none => exact h
      | some b' => exact h.closeElement? hclose
  | text content => exact h.text content
  | comment content => exact h.comment content

theorem Sound.foldl_step (h : b.Sound) (steps : List BuildStep) :
    (steps.foldl Builder.step b).Sound := by
  induction steps generalizing b with
  | nil => exact h
  | cons s steps ih => exact ih (h.step s)

/-- Every builder that can be reached is sound. -/
theorem sound_run (steps : List BuildStep) : (run steps).Sound := sound_empty.foldl_step steps

theorem wellFormed_run (steps : List BuildStep) : (run steps).document.WellFormed :=
  (sound_run steps).document

end Harvest.Markup.Builder
