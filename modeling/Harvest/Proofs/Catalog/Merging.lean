import Harvest.Catalog.Mapping
import Harvest.Proofs.Text.Runs
import Mathlib.Data.List.Sort

/-!
Entries that are filled from others.

Merging keeps what an entry has and takes the rest from another one, part by part: a title that is
not blank, authors if there are any, a year, and every free field under its name. Each part is
filled in the same manner, so merging is associative and settles at once.

An entry counts as complete by a measure of its own. For the title and the year the two measures
agree; for the authors they do not, as authors who are all blank are kept and count for nothing.
-/

namespace Harvest

namespace SortedMap

variable {α : Type} {m n : SortedMap α}

/-- Maps with the same values under the same names are equal. -/
theorem ext_get? (h : ∀ key, m.get? key = n.get? key) : m = n := by
  have hasymm : Std.Asymm fun e e' : String × α => e.1 < e'.1 := ⟨fun _ _ => String.lt_asymm⟩
  have hentries : m.entries = n.entries := m.sorted.eq_of_mem_iff n.sorted fun e => by
    rw [← get?_eq_some_iff, ← get?_eq_some_iff, h]
  obtain ⟨entries, _⟩ := m
  subst hentries
  rfl

theorem get?_foldl_fill (entries : List (String × α)) (m : SortedMap α) (key : String) :
    (entries.foldl (fun m e => if m.contains e.1 then m else m.insert e.1 e.2) m).get? key =
      (m.get? key).or (entries.lookup key) := by
  induction entries generalizing m with
  | nil => exact Option.or_none.symm
  | cons e rest ih =>
      obtain ⟨name, value⟩ := e
      rw [List.foldl_cons, ih, List.lookup_cons]
      by_cases hkey : key = name
      · subst hkey
        cases hheld : m.get? key with
        | none => simp [contains, hheld]
        | some held => simp [contains, hheld]
      · have hother : (key == name) = false := beq_eq_false_iff_ne.mpr hkey
        rw [hother]
        split
        · rfl
        · rw [get?_insert_of_ne m hkey]

/-- A map that is filled has its own values, and those of the other one where it has none. -/
theorem get?_fillFrom (m n : SortedMap α) (key : String) :
    (m.fillFrom n).get? key = (m.get? key).or (n.get? key) :=
  get?_foldl_fill n.entries m key

end SortedMap

end Harvest

namespace Harvest.Catalog

open Harvest.Rule Harvest.Text

def fill {α : Type} (lacks : α → Bool) (x y : α) : α := if lacks x then y else x

section Fill

variable {α : Type} (lacks : α → Bool)

theorem fill_assoc (x y z : α) : fill lacks (fill lacks x y) z = fill lacks x (fill lacks y z) := by
  unfold fill
  by_cases hx : lacks x = true
  · simp only [if_pos hx]
  · simp only [if_neg hx]

theorem fill_self (x : α) : fill lacks x x = x := ite_self x

end Fill

def lacksText (title : Option String) : Bool := title.all isBlankText

namespace Entry

variable {a b c : Entry}

theorem lacksTitle_eq (e : Entry) : e.lacksTitle = lacksText e.title := by
  unfold lacksTitle lacksText
  cases e.title <;> rfl

theorem ext_get? (htitle : a.title = b.title) (hauthors : a.authors = b.authors)
    (hyear : a.year = b.year) (hfields : ∀ name, a.fields.get? name = b.fields.get? name) :
    a = b := by
  obtain ⟨title, authors, year, fields⟩ := a
  obtain rfl := htitle
  obtain rfl := hauthors
  obtain rfl := hyear
  obtain rfl : fields = _ := SortedMap.ext_get? hfields
  rfl

section Parts

variable (a b : Entry)

theorem title_merge : (a.merge b).title = fill lacksText a.title b.title := by
  rw [merge, fill, lacksTitle_eq]

theorem authors_merge : (a.merge b).authors = fill List.isEmpty a.authors b.authors := rfl

theorem year_merge : (a.merge b).year = a.year.or b.year := rfl

theorem get?_fields_merge (name : String) :
    (a.merge b).fields.get? name = (a.fields.get? name).or (b.fields.get? name) :=
  a.fields.get?_fillFrom b.fields name

end Parts

theorem merge_assoc (a b c : Entry) : (a.merge b).merge c = a.merge (b.merge c) := by
  refine ext_get? ?_ ?_ Option.or_assoc fun name => ?_
  · simp only [title_merge, fill_assoc]
  · simp only [authors_merge, fill_assoc]
  · simp only [get?_fields_merge, Option.or_assoc]

theorem merge_self (a : Entry) : a.merge a = a := by
  refine ext_get? ?_ ?_ Option.or_self fun name => ?_
  · rw [title_merge, fill_self]
  · rw [authors_merge, fill_self]
  · rw [get?_fields_merge, Option.or_self]

/-- What an entry is merged with has nothing more to give. -/
theorem merge_merge_self (a b : Entry) : (a.merge b).merge b = a.merge b := by
  rw [merge_assoc, merge_self]

theorem empty_merge (b : Entry) : empty.merge b = b :=
  ext_get? rfl rfl rfl fun name => get?_fields_merge empty b name

/-- An entry is another one filled from a third one: it has what that one has, and what the third
one has where that one lacks it. -/
structure Fills (a b filled : Entry) : Prop where
  title_kept : ∀ title, a.title = some title → isBlankText title = false → filled.title = some title
  title_taken : a.lacksTitle = true → filled.title = b.title
  authors_kept : a.authors ≠ [] → filled.authors = a.authors
  authors_taken : a.authors = [] → filled.authors = b.authors
  year_kept : ∀ year, a.year = some year → filled.year = some year
  year_taken : a.year = none → filled.year = b.year
  field_kept : ∀ name value, a.fields.get? name = some value → filled.fields.get? name = some value
  field_taken : ∀ name, a.fields.get? name = none → filled.fields.get? name = b.fields.get? name

theorem fills_merge (a b : Entry) : Fills a b (a.merge b) where
  title_kept title htitle hsome := by
    have hlacks : lacksText a.title = false := by rw [htitle]; exact hsome
    rw [title_merge, fill, hlacks, htitle]
    rfl
  title_taken hlacks := if_pos hlacks
  authors_kept hsome := if_neg (by simpa using hsome)
  authors_taken hnone := if_pos (by simpa using hnone)
  year_kept _ hyear := by rw [year_merge, hyear, Option.some_or]
  year_taken hnone := by rw [year_merge, hnone, Option.none_or]
  field_kept name _ hvalue := by rw [get?_fields_merge, hvalue, Option.some_or]
  field_taken name hnone := by rw [get?_fields_merge, hnone, Option.none_or]

/-- There is one way to fill an entry. -/
theorem Fills.unique {filled filled' : Entry} (h : Fills a b filled) (h' : Fills a b filled') :
    filled = filled' := by
  refine ext_get? ?_ ?_ ?_ fun name => ?_
  · cases htitle : a.title with
    | none =>
        have hlacks : a.lacksTitle = true := by rw [lacksTitle_eq, htitle]; rfl
        rw [h.title_taken hlacks, h'.title_taken hlacks]
    | some title =>
        cases hblank : isBlankText title with
        | true =>
            have hlacks : a.lacksTitle = true := by rw [lacksTitle_eq, htitle]; exact hblank
            rw [h.title_taken hlacks, h'.title_taken hlacks]
        | false => rw [h.title_kept title htitle hblank, h'.title_kept title htitle hblank]
  · by_cases hnone : a.authors = []
    · rw [h.authors_taken hnone, h'.authors_taken hnone]
    · rw [h.authors_kept hnone, h'.authors_kept hnone]
  · cases hyear : a.year with
    | none => rw [h.year_taken hyear, h'.year_taken hyear]
    | some year => rw [h.year_kept year hyear, h'.year_kept year hyear]
  · cases hvalue : a.fields.get? name with
    | none => rw [h.field_taken name hvalue, h'.field_taken name hvalue]
    | some value => rw [h.field_kept name value hvalue, h'.field_kept name value hvalue]

/-- Merging is filling, in one way for each two entries. It is associative, and it settles at
once. -/
theorem merge_fills_and_settles (a b c : Entry) :
    (a.merge b).merge c = a.merge (b.merge c) ∧ a.merge a = a ∧
      (a.merge b).merge b = a.merge b ∧ empty.merge b = b ∧
      ∀ filled, Fills a b filled ↔ filled = a.merge b :=
  ⟨merge_assoc a b c, merge_self a, merge_merge_self a b, empty_merge b, fun _ =>
    ⟨fun h => h.unique (fills_merge a b), fun h => h ▸ fills_merge a b⟩⟩

def NamesAuthor (e : Entry) : Prop := ∃ author ∈ e.authors, isBlankText author = false

def HasBlankAuthors (e : Entry) : Prop := e.authors ≠ [] ∧ ¬ e.NamesAuthor

theorem namesAuthor_iff (e : Entry) : e.NamesAuthor ↔ e.authors.all isBlankText = false := by
  simp [NamesAuthor, List.all_eq_false]

/-- An entry is complete if it names an author and has a title and a year. -/
theorem issue?_eq_none_iff (e : Entry) :
    e.issue? = none ↔ e.NamesAuthor ∧ e.lacksTitle = false ∧ e.year ≠ none := by
  rw [namesAuthor_iff, issue?]
  cases e.authors.all isBlankText <;> cases e.lacksTitle <;> cases e.year <;> simp

theorem issue?_of_not_namesAuthor {e : Entry} (h : ¬ e.NamesAuthor) :
    e.issue? = some .noAuthors := by
  rw [namesAuthor_iff, Bool.not_eq_false] at h
  exact if_pos h

section Parts

variable (a b : Entry)

theorem lacksTitle_merge : (a.merge b).lacksTitle = (a.lacksTitle && b.lacksTitle) := by
  simp only [lacksTitle_eq, title_merge, fill]
  cases h : lacksText a.title <;> simp [h]

theorem year_merge_ne_none : (a.merge b).year ≠ none ↔ a.year ≠ none ∨ b.year ≠ none := by
  rw [year_merge]
  cases a.year <;> simp

/-- Blank authors keep the others away. -/
theorem namesAuthor_merge :
    (a.merge b).NamesAuthor ↔ a.NamesAuthor ∨ a.authors = [] ∧ b.NamesAuthor := by
  by_cases hnone : a.authors = []
  · have hauthors : (a.merge b).authors = b.authors := (fills_merge a b).authors_taken hnone
    simp [NamesAuthor, hauthors, hnone]
  · have hauthors : (a.merge b).authors = a.authors := (fills_merge a b).authors_kept hnone
    simp [NamesAuthor, hauthors, hnone]

end Parts

theorem not_hasBlankAuthors (h : ∀ author ∈ a.authors, isBlankText author = false) :
    ¬ a.HasBlankAuthors := by
  rintro ⟨hsome, hblank⟩
  obtain ⟨author, hauthor⟩ := List.exists_mem_of_ne_nil _ hsome
  exact hblank ⟨author, hauthor, h author hauthor⟩

end Entry

section Mapping

theorem isBlankText_trim (s : String) : isBlankText (trim s) = isBlankText s := by
  rw [Bool.eq_iff_iff, ← trim_eq_empty_iff, trim_trim, trim_eq_empty_iff]

/-- The authors of a value are not blank. -/
theorem isBlankText_of_mem_authorsOf (v : Value) :
    ∀ author ∈ authorsOf v, isBlankText author = false := by
  fun_induction authorsOf v with
  | case1 items ih =>
      intro author hauthor
      obtain ⟨⟨item, hitem⟩, -, hauthor⟩ := List.mem_flatMap.mp hauthor
      exact ih item hitem author hauthor
  | case2 v hlist =>
      intro author hauthor
      obtain ⟨hauthor, hsome⟩ := Option.filter_eq_some_iff.mp (Option.mem_toList.mp hauthor)
      obtain ⟨text, -, rfl⟩ := Option.map_eq_some_iff.mp hauthor
      rw [isBlankText_trim, Bool.eq_false_iff, Ne, ← trim_eq_empty_iff]
      intro hempty
      rw [hempty] at hsome
      cases hsome

theorem authors_mapField (e : Entry) (name : String) (v : Value) :
    (mapField e name v).authors = e.authors ∨
      (mapField e name v).authors = e.authors ++ authorsOf v := by
  unfold mapField
  split
  · exact .inl rfl
  · exact .inr rfl
  · exact .inr rfl
  · exact .inl rfl
  · exact .inl rfl
  · exact .inl rfl
  · split
    · exact .inl rfl
    · split <;> exact .inl rfl

/-- The authors of the entry of a record are not blank. -/
theorem isBlankText_of_mem_authors_entryOf (record : List (String × Value)) :
    ∀ author ∈ (entryOf record).authors, isBlankText author = false := by
  unfold entryOf
  have hempty : ∀ author ∈ Entry.empty.authors, isBlankText author = false := by
    simp [Entry.empty]
  refine List.foldlRecOn
    (motive := fun e : Entry => ∀ author ∈ e.authors, isBlankText author = false) record _ hempty
    fun e he field _ author hauthor => ?_
  obtain hsame | hmore := authors_mapField e field.1 field.2
  · exact he author (hsame ▸ hauthor)
  · rw [hmore] at hauthor
    exact (List.mem_append.mp hauthor).elim (he author)
      (isBlankText_of_mem_authorsOf field.2 author)

end Mapping

namespace Entry

/-- An entry that is filled from another one is complete if it was complete before, and if the other
one is complete, unless it has nothing but blank authors: these are kept, and the entry then lacks
an author. The entries of records have no blank authors. -/
theorem complete_merge_iff (a b : Entry) (h : a.issue? = none ∨ b.issue? = none) :
    ((a.merge b).issue? = none ↔ ¬ a.HasBlankAuthors) ∧
      (a.HasBlankAuthors → (a.merge b).issue? = some .noAuthors) ∧
      (a.issue? = none → (a.merge b).issue? = none) ∧
      ∀ record, a = entryOf record → (a.merge b).issue? = none := by
  have hiff : (a.merge b).issue? = none ↔ ¬ a.HasBlankAuthors := by
    simp only [issue?_eq_none_iff] at h
    have htitle : (a.merge b).lacksTitle = false := by
      rw [lacksTitle_merge, Bool.and_eq_false_iff]
      exact h.imp (·.2.1) (·.2.1)
    have hyear : (a.merge b).year ≠ none := (year_merge_ne_none a b).mpr (h.imp (·.2.2) (·.2.2))
    have hnamed : a.NamesAuthor ∨ b.NamesAuthor := h.imp (·.1) (·.1)
    rw [issue?_eq_none_iff, and_iff_left ⟨htitle, hyear⟩, namesAuthor_merge, HasBlankAuthors]
    tauto
  refine ⟨hiff, fun hblank => ?_, fun ha => hiff.mpr fun hblank => ?_, ?_⟩
  · refine issue?_of_not_namesAuthor fun hnamed => ?_
    obtain hnamed | ⟨hnone, -⟩ := (namesAuthor_merge a b).mp hnamed
    · exact hblank.2 hnamed
    · exact hblank.1 hnone
  · exact hblank.2 ((issue?_eq_none_iff a).mp ha).1
  · rintro record rfl
    exact hiff.mpr (not_hasBlankAuthors (isBlankText_of_mem_authors_entryOf record))

def flora : Entry := ⟨some "Flora", ["Ada"], some 1999, .empty⟩

/-- An entry with a blank title, no authors and no year is completed. -/
theorem complete_merge_iff_blank_title :
    let a : Entry := ⟨some " ", [], none, .empty⟩
    a.issue? = some .noAuthors ∧ flora.issue? = none ∧ ¬ a.HasBlankAuthors ∧
      (a.merge flora).issue? = none := by
  intro a
  have hcomplete : flora.issue? = none := by decide
  have hblank : ¬ a.HasBlankAuthors := fun h => h.1 rfl
  exact ⟨by decide, hcomplete, hblank, (complete_merge_iff a flora (.inr hcomplete)).1.mpr hblank⟩

/-- One blank author keeps the author of a complete entry away. -/
theorem blank_author_keeps_entry_incomplete :
    let a : Entry := ⟨some "Flora", [" "], some 1999, .empty⟩
    flora.issue? = none ∧ (a.merge flora).issue? = some .noAuthors := by
  decide

end Entry

end Harvest.Catalog
