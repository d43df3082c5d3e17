/-!
Maps from names to values, kept in the order of the names.

Two maps with the same values under the same names are equal, since their entries are.
-/

namespace Harvest

/-- Adds an entry to a sorted list of entries, in place of one with the same name. -/
def insertEntry {α : Type} (key : String) (value : α) : List (String × α) → List (String × α)
  | [] => [(key, value)]
  | (k, v) :: rest =>
    if key < k then (key, value) :: (k, v) :: rest
    else if key = k then (key, value) :: rest
    else (k, v) :: insertEntry key value rest

theorem mem_insertEntry {α : Type} {key : String} {value : α} {entries : List (String × α)}
    {e : String × α} (h : e ∈ insertEntry key value entries) :
    e = (key, value) ∨ e ∈ entries := by
  induction entries with
  | nil => simpa [insertEntry] using h
  | cons head rest ih =>
    obtain ⟨k, v⟩ := head
    unfold insertEntry at h
    split at h
    · simpa using h
    · split at h
      · rcases List.mem_cons.1 h with h | h
        · exact .inl h
        · exact .inr (List.mem_cons_of_mem _ h)
      · rcases List.mem_cons.1 h with h | h
        · exact .inr (h ▸ List.mem_cons_self)
        · rcases ih h with h | h
          · exact .inl h
          · exact .inr (List.mem_cons_of_mem _ h)

theorem sorted_insertEntry {α : Type} (key : String) (value : α) {entries : List (String × α)}
    (h : entries.Pairwise (·.1 < ·.1)) :
    (insertEntry key value entries).Pairwise (·.1 < ·.1) := by
  induction entries with
  | nil => simp [insertEntry]
  | cons head rest ih =>
    obtain ⟨k, v⟩ := head
    have hrest := List.pairwise_cons.1 h
    unfold insertEntry
    split
    · next hlt =>
      refine List.pairwise_cons.2 ⟨fun e he => ?_, h⟩
      rcases List.mem_cons.1 he with rfl | he
      · exact hlt
      · exact String.lt_trans hlt (hrest.1 e he)
    · split
      · next heq =>
        subst heq
        exact List.pairwise_cons.2 ⟨hrest.1, hrest.2⟩
      · next hlt hne =>
        refine List.pairwise_cons.2 ⟨fun e he => ?_, ih hrest.2⟩
        rcases mem_insertEntry he with rfl | he
        · have hle : k ≤ key := String.not_lt.1 hlt
          exact Std.lt_of_le_of_ne hle (Ne.symm hne)
        · exact hrest.1 e he

theorem lookup_insertEntry {α : Type} (key : String) (value : α) (entries : List (String × α)) :
    (insertEntry key value entries).lookup key = some value := by
  induction entries with
  | nil => simp [insertEntry]
  | cons head rest ih =>
    obtain ⟨k, v⟩ := head
    unfold insertEntry
    split
    · simp
    · split
      · simp
      · next hne =>
        have hfalse : (key == k) = false := beq_eq_false_iff_ne.mpr hne
        rw [List.lookup_cons, hfalse]
        exact ih

theorem lookup_insertEntry_of_ne {α : Type} {key name : String} (h : name ≠ key) (value : α)
    (entries : List (String × α)) :
    (insertEntry key value entries).lookup name = entries.lookup name := by
  have hother : (name == key) = false := beq_eq_false_iff_ne.mpr h
  induction entries with
  | nil => rw [insertEntry, List.lookup_cons, hother]
  | cons head rest ih =>
    obtain ⟨k, v⟩ := head
    unfold insertEntry
    split
    · rw [List.lookup_cons, hother]
    · split
      · next hkey => rw [List.lookup_cons, List.lookup_cons, ← hkey, hother]
      · rw [List.lookup_cons, List.lookup_cons, ih]

theorem lookup_eq_some_iff_mem {α : Type} {key : String} {value : α} {entries : List (String × α)}
    (h : entries.Pairwise (·.1 < ·.1)) :
    entries.lookup key = some value ↔ (key, value) ∈ entries := by
  induction entries with
  | nil => simp
  | cons head rest ih =>
    obtain ⟨k, v⟩ := head
    obtain ⟨hfirst, hrest⟩ := List.pairwise_cons.1 h
    rw [List.lookup_cons, List.mem_cons, Prod.mk.injEq]
    by_cases hkey : key = k
    · subst hkey
      have hno : (key, value) ∉ rest := fun he => String.lt_irrefl key (hfirst _ he)
      simp [hno, eq_comm]
    · have hother : (key == k) = false := beq_eq_false_iff_ne.mpr hkey
      simp [hother, hkey, ih hrest]

/-- A map from names to values; its entries are sorted by name. -/
structure SortedMap (α : Type) where
  entries : List (String × α)
  sorted : entries.Pairwise (·.1 < ·.1)

namespace SortedMap

variable {α : Type}

instance [DecidableEq α] : DecidableEq (SortedMap α) := fun a b =>
  decidable_of_iff (a.entries = b.entries) (by cases a; cases b; simp)

def empty : SortedMap α := ⟨[], List.Pairwise.nil⟩

instance : Inhabited (SortedMap α) := ⟨empty⟩

def get? (m : SortedMap α) (key : String) : Option α := m.entries.lookup key

theorem get?_eq_some_iff (m : SortedMap α) {key : String} {value : α} :
    m.get? key = some value ↔ (key, value) ∈ m.entries := lookup_eq_some_iff_mem m.sorted

def contains (m : SortedMap α) (key : String) : Bool := (m.get? key).isSome

def keys (m : SortedMap α) : List String := m.entries.map (·.1)

def isEmpty (m : SortedMap α) : Bool := m.entries.isEmpty

def insert (m : SortedMap α) (key : String) (value : α) : SortedMap α :=
  ⟨insertEntry key value m.entries, sorted_insertEntry key value m.sorted⟩

@[simp] theorem get?_insert (m : SortedMap α) (key : String) (value : α) :
    (m.insert key value).get? key = some value := lookup_insertEntry key value m.entries

theorem get?_insert_of_ne (m : SortedMap α) {key name : String} (h : name ≠ key) (value : α) :
    (m.insert key value).get? name = m.get? name :=
  lookup_insertEntry_of_ne h value m.entries

def erase (m : SortedMap α) (key : String) : SortedMap α :=
  ⟨m.entries.filter (·.1 != key), m.sorted.filter _⟩

@[simp] theorem get?_erase (m : SortedMap α) (key : String) : (m.erase key).get? key = none := by
  refine List.lookup_eq_none_iff.mpr fun e he => ?_
  have hne : e.1 ≠ key := bne_iff_ne.mp (List.mem_filter.mp he).2
  exact bne_iff_ne.mpr hne.symm

theorem get?_erase_of_ne (m : SortedMap α) {key name : String} (h : name ≠ key) :
    (m.erase key).get? name = m.get? name := by
  show (m.entries.filter (·.1 != key)).lookup name = m.entries.lookup name
  induction m.entries with
  | nil => rfl
  | cons e rest ih =>
    rw [List.filter_cons]
    split
    · rw [List.lookup_cons, List.lookup_cons, ih]
    · next hkey =>
      have hkey : e.1 = key := by simpa using hkey
      have hother : (name == e.1) = false := beq_eq_false_iff_ne.mpr (hkey ▸ h)
      rw [List.lookup_cons, hother, ih]

/-- The map of a list of entries; of those with the same name the last one counts. -/
def ofList (entries : List (String × α)) : SortedMap α :=
  entries.foldl (fun m e => m.insert e.1 e.2) empty

/-- The map with the entries of `other` whose names it lacks. -/
def fillFrom (m other : SortedMap α) : SortedMap α :=
  other.entries.foldl (fun m e => if m.contains e.1 then m else m.insert e.1 e.2) m

end SortedMap

end Harvest
