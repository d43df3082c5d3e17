import Harvest.Proofs.Markup.Building

/-!
The character data below a node, read off an interval of numbers.

Three walks go below a node: one lists what is there, one follows last children down to where that
ends, and one joins the texts. The last of them goes into elements alone and passes over everything
else. In a document that a builder has made nothing is below a text or a comment, so that no text is
passed over, and the texts are joined in the order in which the first walk lists them; and what it
lists are the numbers up to the end that the second one finds.
-/

namespace Harvest.Markup

def NodeKind.text? : NodeKind → Option String
  | .text content => some content
  | _ => none

namespace Document

variable (d : Document)

def textsAmong (ids : List Nat) : List String := ids.filterMap fun i => (d.kind i).text?

theorem textsAmong_cons_of_text {i : Nat} {content : String} (h : d.kind i = .text content)
    (ids : List Nat) : d.textsAmong (i :: ids) = content :: d.textsAmong ids :=
  List.filterMap_cons_some (by rw [h]; rfl)

theorem textsAmong_cons_of_isText_eq_false {i : Nat} (h : (d.kind i).isText = false)
    (ids : List Nat) : d.textsAmong (i :: ids) = d.textsAmong ids := by
  refine List.filterMap_cons_none ?_
  cases hkind : d.kind i with
  | text content => rw [hkind] at h; cases h
  | root | element _ _ | comment _ => rfl

/-- Texts may be joined list by list. -/
theorem join_textsAmong_flatMap (ids : List Nat) (f : Nat → List Nat) :
    String.join (d.textsAmong (ids.flatMap f)) =
      String.join (ids.map fun i => String.join (d.textsAmong (f i))) := by
  apply String.toList_injective
  simp only [textsAmong, String.toList_join, List.filterMap_flatMap, List.flatMap_assoc,
    List.flatMap_map]

variable {d} (h : d.WellFormed)
include h

theorem WellFormed.descendants_eq_nil {i : Nat} (hleaf : (d.kind i).isInner = false) :
    d.descendants i = [] := by
  have hchildren : d.children i = [] := by
    by_contra hne
    rw [h.inner i hne] at hleaf
    cases hleaf
  rw [descendants_eq, hchildren, List.flatMap_nil]

/-- What a child adds to the character data of its parent are the texts among it and what is below
it, if this holds of the character data below the child. -/
theorem WellFormed.dataOf_eq {n c : Nat} (hc : c ∈ d.children n)
    (hbelow : d.textBelow c = String.join (d.textsAmong (d.descendants c))) :
    d.dataOf c = String.join (d.textsAmong (c :: d.descendants c)) := by
  rw [dataOf]
  cases hkind : d.kind c with
  | root =>
      have hlt := child_lt hc
      have hzero := (h.root_iff c hlt.2).mp hkind
      omega
  | element name attributes =>
      rw [d.textsAmong_cons_of_isText_eq_false (by rw [hkind]; rfl)]
      exact hbelow
  | text content =>
      rw [d.textsAmong_cons_of_text hkind, h.descendants_eq_nil (by rw [hkind]; rfl)]
      simp [textsAmong, String.join]
  | comment content =>
      rw [d.textsAmong_cons_of_isText_eq_false (by rw [hkind]; rfl),
        h.descendants_eq_nil (by rw [hkind]; rfl)]
      rfl

/-- The character data below a node are the texts that a walk below it meets. -/
theorem WellFormed.textBelow_eq_join (n : Nat) :
    d.textBelow n = String.join (d.textsAmong (d.descendants n)) := by
  induction n using textBelow.induct d with
  | case1 n ih =>
      rw [textBelow_eq, descendants_eq, join_textsAmong_flatMap]
      refine congrArg String.join (List.map_congr_left fun c hc => ?_)
      exact h.dataOf_eq hc (ih c hc)

omit h in
theorem stringValue_of_isInner {x : Nat} (hinner : (d.kind x).isInner = true) :
    d.stringValue x = d.textBelow x := by
  rw [stringValue]
  cases hkind : d.kind x with
  | root | element _ _ => rfl
  | text _ | comment _ => rw [hkind] at hinner; cases hinner

end Document

namespace Builder

/-- In a document of a builder, a walk below a node lists the numbers behind its own one by one up
to the end that its last children lead to, which is a node of the document; and the string value of
the root or of an element is made of the texts among these nodes, in the order of their numbers, and
of nothing else. -/
theorem run_below_is_interval (steps : List BuildStep) {x : Nat}
    (hx : x < (run steps).document.size) :
    (x ≤ (run steps).document.subtreeEnd x ∧
        (run steps).document.subtreeEnd x < (run steps).document.size) ∧
      (run steps).document.descendants x =
        List.range' (x + 1) ((run steps).document.subtreeEnd x - x) ∧
      (((run steps).document.kind x).isInner = true →
        (run steps).document.stringValue x = String.join ((run steps).document.textsAmong
          (List.range' (x + 1) ((run steps).document.subtreeEnd x - x)))) := by
  have h := wellFormed_run steps
  have hwalk := h.preorder.descendants_eq_range' x
  have hend := h.preorder.within_subtreeEnd x
  refine ⟨⟨hend.le, hend.lt_size hx⟩, hwalk, fun hinner => ?_⟩
  rw [Document.stringValue_of_isInner hinner, h.textBelow_eq_join, hwalk]

/-- A link with a bold word and a comment in it, and a text behind the link. -/
def linkSteps : List BuildStep :=
  [.openElement "a" [("href", "x")], .text "Foo", .openElement "b" [], .text "Bar", .closeCurrent,
    .comment "Qux", .text "Baz", .closeCurrent, .text "!"]

/-- The link is node 1 and all below it is numbered up to 6; its string value is made of the texts
2, 4 and 6, without the comment 5 and the text 7 behind the link. -/
theorem run_below_is_interval_link :
    1 < (run linkSteps).document.size ∧
      ((run linkSteps).document.kind 1).isInner = true ∧
      (run linkSteps).document.descendants 1 = [2, 3, 4, 5, 6] ∧
      (run linkSteps).document.stringValue 1 = "FooBarBaz" := by
  have hend : (run linkSteps).document.subtreeEnd 1 = 6 := by decide +kernel
  have hsize : 1 < (run linkSteps).document.size := by decide +kernel
  have hinner : ((run linkSteps).document.kind 1).isInner = true := by decide +kernel
  obtain ⟨-, hwalk, hvalue⟩ := run_below_is_interval linkSteps hsize
  rw [hend] at hwalk hvalue
  exact ⟨hsize, hinner, hwalk, (hvalue hinner).trans (by decide +kernel)⟩

end Builder

end Harvest.Markup
