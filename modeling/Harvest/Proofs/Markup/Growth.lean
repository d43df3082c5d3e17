import Harvest.Markup.Builder

/-!
What a growing document keeps.

A document grows in two ways: a new last child, which gets the next number, and more character data
at the end of a text. Each of the readers of a node is followed through both. Nothing else about an
older node changes, and in particular never its parent.
-/

namespace Harvest.Markup

def NodeKind.extend (more : String) : NodeKind → NodeKind
  | .text content => .text (content ++ more)
  | kind => kind

def NodeKind.isText : NodeKind → Bool
  | .text _ => true
  | _ => false

def NodeKind.isInner : NodeKind → Bool
  | .root => true
  | .element _ _ => true
  | _ => false

theorem NodeKind.root_ne_text {content : String} : NodeKind.root ≠ .text content := by
  simp

@[simp] theorem NodeKind.isText_extend (more : String) (kind : NodeKind) :
    (kind.extend more).isText = kind.isText := by
  cases kind <;> rfl

@[simp] theorem NodeKind.isInner_extend (more : String) (kind : NodeKind) :
    (kind.extend more).isInner = kind.isInner := by
  cases kind <;> rfl

namespace Document

variable (d : Document)

theorem kind_of_size_le {i : Nat} (h : d.size ≤ i) : d.kind i = .root := by
  rw [kind, Array.getElem?_eq_none h]

theorem parent?_of_size_le {i : Nat} (h : d.size ≤ i) : d.parent? i = none := by
  rw [parent?, Array.getElem?_eq_none h]

theorem children_of_size_le {i : Nat} (h : d.size ≤ i) : d.children i = [] := by
  rw [children, Array.getElem?_eq_none h]

theorem lt_size_of_parent? {d : Document} {i p : Nat} (h : d.parent? i = some p) :
    i < d.size := by
  refine Nat.lt_of_not_le fun hle => ?_
  rw [d.parent?_of_size_le hle] at h
  cases h

@[simp] theorem parent?_zero : d.parent? 0 = none := by
  cases h : d.parent? 0 with
  | none => rfl
  | some p => exact absurd (lt_of_parent? h) (Nat.not_lt_zero p)

theorem getElem?_append (p : Nat) (h : p < d.size) (kind : NodeKind) (i : Nat) :
    (d.append p h kind).nodes[i]? =
      if i = d.size then some ⟨kind, some p, []⟩
      else if p = i then (d.nodes[i]?).map fun n => { n with children := n.children ++ [d.size] }
      else d.nodes[i]? := by
  by_cases hi : i = d.size
  · have hi' : i = d.nodes.size := hi
    rw [if_pos hi, append, Array.getElem?_push, Array.size_modify, if_pos hi']
  · have hi' : i ≠ d.nodes.size := hi
    rw [if_neg hi, append, Array.getElem?_push, Array.size_modify, if_neg hi',
      Array.getElem?_modify]

@[simp] theorem kind_append (p : Nat) (h : p < d.size) (kind : NodeKind) (i : Nat) :
    (d.append p h kind).kind i = if i = d.size then kind else d.kind i := by
  unfold Document.kind
  rw [getElem?_append]
  by_cases hi : i = d.size
  · rw [if_pos hi, if_pos hi]
  · rw [if_neg hi, if_neg hi]
    by_cases hp : p = i
    · rw [if_pos hp]
      cases d.nodes[i]? <;> rfl
    · rw [if_neg hp]

@[simp] theorem parent?_append (p : Nat) (h : p < d.size) (kind : NodeKind) (i : Nat) :
    (d.append p h kind).parent? i = if i = d.size then some p else d.parent? i := by
  unfold Document.parent?
  rw [getElem?_append]
  by_cases hi : i = d.size
  · rw [if_pos hi, if_pos hi]
  · rw [if_neg hi, if_neg hi]
    by_cases hp : p = i
    · rw [if_pos hp]
      cases d.nodes[i]? <;> rfl
    · rw [if_neg hp]

theorem kind_append_size (p : Nat) (h : p < d.size) (kind : NodeKind) :
    (d.append p h kind).kind d.size = kind := by
  rw [kind_append, if_pos rfl]

theorem parent?_append_size (p : Nat) (h : p < d.size) (kind : NodeKind) :
    (d.append p h kind).parent? d.size = some p := by
  rw [parent?_append, if_pos rfl]

theorem kind_append_of_lt {p : Nat} (h : p < d.size) (kind : NodeKind) {i : Nat}
    (hi : i < d.size) : (d.append p h kind).kind i = d.kind i := by
  rw [kind_append, if_neg (Nat.ne_of_lt hi)]

theorem parent?_append_of_lt {p : Nat} (h : p < d.size) (kind : NodeKind) {i : Nat}
    (hi : i < d.size) : (d.append p h kind).parent? i = d.parent? i := by
  rw [parent?_append, if_neg (Nat.ne_of_lt hi)]

@[simp] theorem children_append (p : Nat) (h : p < d.size) (kind : NodeKind) (i : Nat) :
    (d.append p h kind).children i =
      if i = p then d.children p ++ [d.size] else d.children i := by
  rcases Nat.lt_trichotomy i d.size with hi | rfl | hi
  · obtain ⟨n, hn⟩ : ∃ n, d.nodes[i]? = some n := ⟨_, Array.getElem?_eq_getElem hi⟩
    unfold Document.children
    rw [getElem?_append, if_neg (Nat.ne_of_lt hi)]
    by_cases hp : i = p
    · subst hp
      rw [if_pos rfl, if_pos rfl, hn]
      rfl
    · rw [if_neg (Ne.symm hp), if_neg hp]
  · rw [if_neg (Nat.ne_of_gt h), d.children_of_size_le (Nat.le_refl _)]
    unfold Document.children
    rw [getElem?_append, if_pos rfl]
  · rw [if_neg (by omega), d.children_of_size_le (Nat.le_of_lt hi)]
    exact children_of_size_le _ (by rw [size_append]; omega)

theorem getElem?_extendText (id : Nat) (more : String) (i : Nat) :
    (d.extendText id more).nodes[i]? =
      if id = i then (d.nodes[i]?).map fun n => { n with kind := n.kind.extend more }
      else d.nodes[i]? := by
  simp only [extendText, Array.getElem?_modify]
  congr 2
  funext n
  obtain ⟨kind, parent, children⟩ := n
  cases kind <;> rfl

@[simp] theorem kind_extendText (id : Nat) (more : String) (i : Nat) :
    (d.extendText id more).kind i = if i = id then (d.kind i).extend more else d.kind i := by
  unfold Document.kind
  rw [getElem?_extendText]
  by_cases hi : id = i
  · rw [if_pos hi, if_pos hi.symm]
    cases d.nodes[i]? <;> rfl
  · rw [if_neg hi, if_neg (Ne.symm hi)]

@[simp] theorem isElement_extendText (id : Nat) (more : String) (i : Nat) :
    (d.extendText id more).isElement i = d.isElement i := by
  unfold isElement
  rw [kind_extendText]
  split
  · cases d.kind i <;> rfl
  · rfl

@[simp] theorem name?_extendText (id : Nat) (more : String) (i : Nat) :
    (d.extendText id more).name? i = d.name? i := by
  unfold name?
  rw [kind_extendText]
  split
  · cases d.kind i <;> rfl
  · rfl

@[simp] theorem attributes_extendText (id : Nat) (more : String) (i : Nat) :
    (d.extendText id more).attributes i = d.attributes i := by
  unfold attributes
  rw [kind_extendText]
  split
  · cases d.kind i <;> rfl
  · rfl

@[simp] theorem parent?_extendText (id : Nat) (more : String) (i : Nat) :
    (d.extendText id more).parent? i = d.parent? i := by
  unfold Document.parent?
  rw [getElem?_extendText]
  by_cases hi : id = i
  · rw [if_pos hi]
    cases d.nodes[i]? <;> rfl
  · rw [if_neg hi]

@[simp] theorem children_extendText (id : Nat) (more : String) (i : Nat) :
    (d.extendText id more).children i = d.children i := by
  unfold Document.children
  rw [getElem?_extendText]
  by_cases hi : id = i
  · rw [if_pos hi]
    cases d.nodes[i]? <;> rfl
  · rw [if_neg hi]

end Document

end Harvest.Markup
