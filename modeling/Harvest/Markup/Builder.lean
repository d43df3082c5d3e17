import Harvest.Markup.Document
import Harvest.Text.Blank

/-!
Building documents from opened elements, closed elements, character data and comments.

Nodes are numbered in the order in which they arrive, so the numbers are in document order. The
builder keeps the open elements, innermost first; closing one closes what is open inside it.
-/

namespace Harvest.Markup

open Harvest.Text

namespace Document

def append (d : Document) (parent : Nat) (h : parent < d.size) (kind : NodeKind) : Document where
  nodes := (d.nodes.modify parent fun n => { n with children := n.children ++ [d.size] }).push
    ⟨kind, some parent, []⟩
  size_pos := by simp
  parent_lt := by
    intro i n hn p hp
    rw [Array.getElem?_push] at hn
    split at hn
    · next hi =>
      simp only [Option.some.injEq] at hn
      subst hn
      simp only [Option.some.injEq] at hp
      subst hp hi
      simpa [size] using h
    · rw [Array.getElem?_modify] at hn
      split at hn
      · obtain ⟨m, hm, rfl⟩ := Option.map_eq_some_iff.1 hn
        exact d.parent_lt i m hm p hp
      · exact d.parent_lt i n hn p hp
  child_gt := by
    intro i n hn c hc
    simp only [Array.size_push, Array.size_modify]
    rw [Array.getElem?_push] at hn
    split at hn
    · simp only [Option.some.injEq] at hn
      subst hn
      simp at hc
    · rw [Array.getElem?_modify] at hn
      split at hn
      · next hi =>
        obtain ⟨m, hm, rfl⟩ := Option.map_eq_some_iff.1 hn
        rcases List.mem_append.1 hc with hc | hc
        · have := d.child_gt i m hm c hc
          omega
        · simp only [List.mem_singleton] at hc
          subst hc
          subst hi
          simp only [size] at h ⊢
          omega
      · have := d.child_gt i n hn c hc
        omega

@[simp] theorem size_append (d : Document) (parent : Nat) (h : parent < d.size)
    (kind : NodeKind) : (d.append parent h kind).size = d.size + 1 := by
  simp [append, size]

def extendText (d : Document) (id : Nat) (more : String) : Document where
  nodes := d.nodes.modify id fun n =>
    match n.kind with
    | .text content => { n with kind := .text (content ++ more) }
    | _ => n
  size_pos := by simpa using d.size_pos
  parent_lt := by
    intro i n hn p hp
    rw [Array.getElem?_modify] at hn
    split at hn
    · obtain ⟨m, hm, rfl⟩ := Option.map_eq_some_iff.1 hn
      refine d.parent_lt i m hm p ?_
      split at hp <;> simpa using hp
    · exact d.parent_lt i n hn p hp
  child_gt := by
    intro i n hn c hc
    rw [Array.size_modify]
    rw [Array.getElem?_modify] at hn
    split at hn
    · obtain ⟨m, hm, rfl⟩ := Option.map_eq_some_iff.1 hn
      refine d.child_gt i m hm c ?_
      split at hc <;> simpa using hc
    · exact d.child_gt i n hn c hc

@[simp] theorem size_extendText (d : Document) (id : Nat) (more : String) :
    (d.extendText id more).size = d.size := by
  simp [extendText, size]

end Document

/-- A document under construction with its open elements, innermost first. -/
structure Builder where
  document : Document
  opened : List Nat
  opened_lt : ∀ i ∈ opened, i < document.size

namespace Builder

def empty : Builder := ⟨Document.empty, [], by simp⟩

variable (b : Builder)

/-- The node that receives what comes next: the innermost open element, or else the root. -/
def current : Nat := b.opened.headD 0

theorem current_lt : b.current < b.document.size := by
  unfold current
  cases h : b.opened with
  | nil => exact b.document.size_pos
  | cons i rest => exact b.opened_lt i (by simp [h])

def append (kind : NodeKind) : Builder where
  document := b.document.append b.current b.current_lt kind
  opened := b.opened
  opened_lt := by
    intro i hi
    have := b.opened_lt i hi
    simp
    omega

/-- Opens an element inside the current one; names are in lower case. -/
def openElement (name : String) (attributes : List Attribute) : Builder where
  document := b.document.append b.current b.current_lt
    (.element (lowerAscii name) (attributes.map fun (key, value) => (lowerAscii key, value)))
  opened := b.document.size :: b.opened
  opened_lt := by
    intro i hi
    rcases List.mem_cons.1 hi with rfl | hi
    · simp
    · have := b.opened_lt i hi
      simp
      omega

def closeCurrent : Builder where
  document := b.document
  opened := b.opened.tail
  opened_lt := fun i hi => b.opened_lt i (List.mem_of_mem_tail hi)

/-- The open elements from the innermost one of a name outward. -/
def openedFrom (name : String) : List Nat :=
  b.opened.dropWhile fun i => b.document.name? i != some (lowerAscii name)

/-- Closes the innermost open element of a name and everything inside it; none when no element of
that name is open. -/
def closeElement? (name : String) : Option Builder :=
  match h : b.openedFrom name with
  | [] => none
  | _ :: outer => some {
      document := b.document
      opened := outer
      opened_lt := fun i hi =>
        b.opened_lt i ((List.dropWhile_sublist _).mem
          (show i ∈ b.openedFrom name by simp [h, hi])) }

def openName? : Option String := b.document.name? b.current

/-- Adds character data; data that follows data becomes one text node. -/
def text (content : String) : Builder :=
  if content = "" then b else
  match (b.document.children b.current).getLast? with
  | some last =>
    match b.document.kind last with
    | .text _ => {
        document := b.document.extendText last content
        opened := b.opened
        opened_lt := fun i hi => by simpa using b.opened_lt i hi }
    | _ => b.append (.text content)
  | none => b.append (.text content)

def comment (content : String) : Builder := b.append (.comment content)

end Builder

/-- What a source of markup reports, one after the other. -/
inductive BuildStep
  | openElement (name : String) (attributes : List Attribute)
  | closeCurrent
  | closeElement (name : String)
  | text (content : String)
  | comment (content : String)
  deriving DecidableEq, Repr

/-- Takes one step; closing a name that is not open changes nothing. -/
def Builder.step (b : Builder) : BuildStep → Builder
  | .openElement name attributes => b.openElement name attributes
  | .closeCurrent => b.closeCurrent
  | .closeElement name => (b.closeElement? name).getD b
  | .text content => b.text content
  | .comment content => b.comment content

def Builder.run (steps : List BuildStep) : Builder := steps.foldl Builder.step Builder.empty

end Harvest.Markup
