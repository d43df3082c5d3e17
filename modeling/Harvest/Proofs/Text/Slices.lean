import Harvest.Text.Blank
import Harvest.Text.Search
import Harvest.Text.Utf8

/-!
Parts cut out of a text by the places of their bytes.

A cut between two characters succeeds and gives whole characters back. A place that a search finds
is such a place, so what is cut off there is what stands before or behind the text that was found.
-/

namespace Harvest.Text

@[simp] theorem byteSize_append (cs ds : List Char) :
    byteSize (cs ++ ds) = byteSize cs + byteSize ds := by
  induction cs with
  | nil => simp [byteSize]
  | cons c cs ih => simp [byteSize, ih, Nat.add_assoc]

theorem bytesOf_append (cs ds : List Char) : bytesOf (cs ++ ds) = bytesOf cs ++ bytesOf ds :=
  List.flatMap_append

theorem length_bytesOf (cs : List Char) : (bytesOf cs).length = byteSize cs := by
  induction cs with
  | nil => rfl
  | cons c cs ih =>
      rw [bytesOf, List.flatMap_cons, List.length_append, String.length_utf8EncodeChar, ← bytesOf, ih]
      rfl

theorem dropBytes?_append (cs ds : List Char) : dropBytes? (byteSize cs) (cs ++ ds) = some ds := by
  induction cs with
  | nil => rw [byteSize, List.nil_append, dropBytes?]
  | cons c cs ih =>
      have hpos := c.utf8Size_pos
      rw [byteSize, List.cons_append, dropBytes?, if_pos (Nat.le_add_right ..),
        Nat.add_sub_cancel_left, ih]
      omega

theorem takeBytes?_append (cs ds : List Char) : takeBytes? (byteSize cs) (cs ++ ds) = some cs := by
  induction cs with
  | nil => rw [byteSize, takeBytes?]
  | cons c cs ih =>
      have hpos := c.utf8Size_pos
      rw [byteSize, List.cons_append, takeBytes?, if_pos (Nat.le_add_right ..),
        Nat.add_sub_cancel_left, ih]
      · rfl
      · omega

/-- Between two whole texts nothing is cut. -/
theorem slice?_append (before part after : List Char) :
    slice? (byteSize before) (byteSize part) (before ++ part ++ after) = some part := by
  rw [slice?, List.append_assoc, dropBytes?_append, Option.bind_some, takeBytes?_append]

theorem placeOf?_eq_some {needle hay : List Char} {start place : Nat}
    (h : placeOf? needle start hay = some place) :
    ∃ before after, hay = before ++ needle ++ after ∧ place = start + byteSize before := by
  induction hay generalizing start with
  | nil =>
      rw [placeOf?] at h
      split at h
      · next hempty =>
        obtain rfl := List.isEmpty_iff.mp hempty
        exact ⟨[], [], rfl, (Option.some.inj h).symm⟩
      · cases h
  | cons c cs ih =>
      rw [placeOf?] at h
      split at h
      · next hprefix =>
        obtain ⟨after, hafter⟩ := List.isPrefixOf_iff_prefix.mp hprefix
        exact ⟨[], after, hafter.symm, (Option.some.inj h).symm⟩
      · obtain ⟨before, after, rfl, rfl⟩ := ih h
        exact ⟨c :: before, after, rfl, Nat.add_assoc ..⟩

/-- A text that is found stands at its place between whole characters, so both what is before it and
what is behind it can be cut off. -/
theorem cuts_of_placeOf? {needle hay : List Char} {place : Nat}
    (h : placeOf? needle 0 hay = some place) :
    ∃ before after, hay = before ++ needle ++ after ∧ takeBytes? place hay = some before ∧
      dropBytes? (place + byteSize needle) hay = some after := by
  obtain ⟨before, after, rfl, rfl⟩ := placeOf?_eq_some h
  refine ⟨before, after, rfl, ?_, ?_⟩
  · rw [Nat.zero_add, List.append_assoc]
    exact takeBytes?_append before _
  · rw [Nat.zero_add, ← byteSize_append]
    exact dropBytes?_append _ after

end Harvest.Text
