import Harvest.Markup.Printer
import Harvest.Xml.Document

/-!
What is written in a tag is read in it.

Character data and values are written with references for the few characters that mean something
else, and reading replaces these references and nothing else. So a value has no quote in it, its
quotes are those around it, and a tag reaches up to its own bracket. Names are words of a few
characters, none of which means anything in a tag.
-/

namespace Harvest.Xml

open Harvest.Markup Harvest.Text

theorem takeWhile_append_of_head? {p : Char → Bool} {cs rest : List Char}
    (hcs : ∀ x ∈ cs, p x = true) (hrest : ∀ x ∈ rest.head?, p x = false) :
    (cs ++ rest).takeWhile p = cs := by
  rw [List.takeWhile_append_of_pos hcs]
  cases rest with
  | nil => simp
  | cons x rest => rw [List.takeWhile_cons_of_neg (by simp [hrest x rfl]), List.append_nil]

theorem ne_of_test {p : Char → Bool} {c x : Char} (hc : p c = true) (hx : p x = false) :
    c ≠ x := by
  rintro rfl
  rw [hx] at hc
  cases hc

section Escaping

/-- Characters that are read as one character: as itself, or through a reference. -/
def Denotes (cs : List Char) (c : Char) : Prop :=
  (cs = [c] ∧ c ≠ '&') ∨ ∃ name, cs = '&' :: (name ++ [';']) ∧
    name.all Char.isLower = true ∧ ∀ first, dereference first name = .ok c

theorem denotes_escapeTextChar (c : Char) : Denotes (escapeTextChar c) c := by
  unfold escapeTextChar
  split
  · next hc =>
    subst hc
    exact .inr ⟨['a', 'm', 'p'], rfl, rfl, fun _ => rfl⟩
  · next hamp =>
    split
    · next hc =>
      subst hc
      exact .inr ⟨['l', 't'], rfl, rfl, fun _ => rfl⟩
    · split
      · next hc =>
        subst hc
        exact .inr ⟨['g', 't'], rfl, rfl, fun _ => rfl⟩
      · exact .inl ⟨rfl, hamp⟩

theorem denotes_escapeValueChar (c : Char) : Denotes (escapeValueChar c) c := by
  unfold escapeValueChar
  split
  · next hc =>
    subst hc
    exact .inr ⟨['q', 'u', 'o', 't'], rfl, rfl, fun _ => rfl⟩
  · exact denotes_escapeTextChar c

theorem unescapeFrom_of_denotes {cs : List Char} {c : Char} (h : Denotes cs c) (size offset : Nat)
    (rest : List Char) : ∃ offset', unescapeFrom size offset (cs ++ rest) =
      (unescapeFrom size offset' rest).map (c :: ·) := by
  obtain ⟨rfl, hc⟩ | ⟨name, rfl, hname, hdereference⟩ := h
  · refine ⟨offset + c.utf8Size, ?_⟩
    rw [List.singleton_append, unescapeFrom, if_neg hc]
    rfl
  · refine ⟨offset + 2 + byteSize name, ?_⟩
    have htake : (name ++ [';'] ++ rest).takeWhile (fun c => c != '&' && c != ';') = name := by
      rw [List.append_assoc]
      refine takeWhile_append_of_head? (fun x hx => ?_) (by simp)
      have hlower := List.all_eq_true.mp hname x hx
      rw [bne_iff_ne.mpr (ne_of_test hlower rfl), bne_iff_ne.mpr (ne_of_test hlower rfl)]
      rfl
    have hdrop : (name ++ [';'] ++ rest).drop name.length = ';' :: rest := by
      rw [List.append_assoc, List.drop_left, List.singleton_append]
    have hbehind : (name ++ [';'] ++ rest).drop (name.length + 1) = rest := by
      rw [← List.drop_drop, hdrop, List.drop_one, List.tail_cons]
    rw [List.cons_append, unescapeFrom, if_pos rfl]
    dsimp only
    rw [htake, hdrop, hbehind, hdereference]
    rfl

/-- What is written character by character is read as it was. -/
theorem unescapeFrom_flatMap {f : Char → List Char} (hf : ∀ c, Denotes (f c) c) (size offset : Nat)
    (cs : List Char) : unescapeFrom size offset (cs.flatMap f) = .ok cs := by
  induction cs generalizing offset with
  | nil => rw [List.flatMap_nil, unescapeFrom]
  | cons c cs ih =>
      obtain ⟨offset', hfirst⟩ := unescapeFrom_of_denotes (hf c) size offset (cs.flatMap f)
      rw [List.flatMap_cons, hfirst, ih]
      rfl

theorem resolveText_flatMap {f : Char → List Char} (hf : ∀ c, Denotes (f c) c) (text : String) :
    resolveText true (text.toList.flatMap f) = .ok text := by
  rw [resolveText, unescape, unescapeFrom_flatMap hf]
  dsimp only
  rw [String.ofList_toList]

theorem not_mem_flatMap {f : Char → List Char} {x : Char} (hf : ∀ c, x ∉ f c) (cs : List Char) :
    x ∉ cs.flatMap f := by
  intro hx
  obtain ⟨c, -, hc⟩ := List.mem_flatMap.mp hx
  exact hf c hc

/-- What no reference consists of can only stand for itself. -/
theorem not_mem_of_denotes {f : Char → List Char} (hf : ∀ c, Denotes (f c) c) {x : Char}
    (hself : x ∉ f x) (hother : x ≠ '&' ∧ x ≠ ';' ∧ x.isLower = false) (c : Char) : x ∉ f c := by
  intro hx
  obtain ⟨hc, -⟩ | ⟨name, hc, hname, -⟩ := hf c
  · obtain rfl : x = c := List.mem_singleton.mp (hc ▸ hx)
    exact hself hx
  · rw [hc, List.mem_cons, List.mem_append, List.mem_singleton] at hx
    obtain hand | hx | hsemicolon := hx
    · exact hother.1 hand
    · exact ne_of_test (List.all_eq_true.mp hname x hx) hother.2.2 rfl
    · exact hother.2.1 hsemicolon

theorem lt_not_mem_escapeTextChar : ∀ c, '<' ∉ escapeTextChar c :=
  not_mem_of_denotes denotes_escapeTextChar (by decide) (by decide)

theorem quote_not_mem_escapeValueChar : ∀ c, '"' ∉ escapeValueChar c :=
  not_mem_of_denotes denotes_escapeValueChar (by decide) (by decide)

theorem Denotes.ne_nil {cs : List Char} {c : Char} (h : Denotes cs c) : cs ≠ [] := by
  obtain ⟨rfl, -⟩ | ⟨name, rfl, -⟩ := h
  · exact List.cons_ne_nil _ _
  · exact List.cons_ne_nil _ _

end Escaping

def attributeChars (a : Attribute) : List Char :=
  ' ' :: (a.1.toList ++ '=' :: '"' :: (a.2.toList.flatMap escapeValueChar ++ ['"']))

def tagChars (name : String) (attributes : List Attribute) : List Char :=
  name.toList ++ attributes.flatMap attributeChars

def isNameStart (c : Char) : Bool := ('a' ≤ c && c ≤ 'z') || c == '_'

def isNameChar (c : Char) : Bool :=
  isNameStart c || isAsciiDigit c || c == '-' || c == '.' || c == ':'

def isName (name : String) : Bool :=
  name.toList.head?.any isNameStart && name.toList.all isNameChar

section Names

theorem isSpace_of_isNameChar {c : Char} (hc : isNameChar c = true) : isSpace c = false := by
  unfold isSpace
  rw [beq_false_of_ne (ne_of_test hc (x := ' ') (by decide)),
    beq_false_of_ne (ne_of_test hc (x := '\t') (by decide)),
    beq_false_of_ne (ne_of_test hc (x := '\n') (by decide)),
    beq_false_of_ne (ne_of_test hc (x := '\r') (by decide))]
  rfl

theorem exists_of_isName {name : String} (h : isName name = true) :
    ∃ c cs, name.toList = c :: cs ∧ isNameStart c = true ∧ isNameChar c = true ∧
      ∀ x ∈ cs, isNameChar x = true := by
  obtain ⟨hfirst, hall⟩ := Bool.and_eq_true_iff.mp h
  cases hname : name.toList with
  | nil =>
      rw [hname] at hfirst
      cases hfirst
  | cons c cs =>
      rw [hname] at hfirst hall
      obtain ⟨hc, hcs⟩ := List.forall_mem_cons.mp (List.all_eq_true.mp hall)
      exact ⟨c, cs, rfl, hfirst, hc, hcs⟩

theorem isNameChar_of_isName {name : String} (h : isName name = true) :
    ∀ c ∈ name.toList, isNameChar c = true :=
  List.all_eq_true.mp (Bool.and_eq_true_iff.mp h).2

end Names

section Index

/-- Characters behind which a tag goes on as before them: they leave no quote open and hold no
bracket outside of quotes. -/
def Plain (cs : List Char) : Prop :=
  ∀ n rest, tagIndex none n (cs ++ rest) = tagIndex none (n + cs.length) rest

theorem Plain.nil : Plain [] := fun _ _ => rfl

theorem Plain.append {cs ds : List Char} (hcs : Plain cs) (hds : Plain ds) : Plain (cs ++ ds) := by
  intro n rest
  rw [List.append_assoc, hcs, hds, List.length_append, Nat.add_assoc]

theorem Plain.flatMap {α : Type} {f : α → List Char} {items : List α}
    (h : ∀ a ∈ items, Plain (f a)) : Plain (items.flatMap f) := by
  induction items with
  | nil => exact .nil
  | cons a items ih =>
      obtain ⟨ha, hitems⟩ := List.forall_mem_cons.mp h
      exact ha.append (ih hitems)

theorem plain_singleton {c : Char} (hc : c ≠ '>' ∧ c ≠ '"' ∧ c ≠ '\'') : Plain [c] := by
  intro n rest
  rw [List.singleton_append, tagIndex]
  simp [hc]

theorem plain_of_isNameChar {cs : List Char} (h : ∀ c ∈ cs, isNameChar c = true) : Plain cs := by
  induction cs with
  | nil => exact .nil
  | cons c cs ih =>
      obtain ⟨hc, hcs⟩ := List.forall_mem_cons.mp h
      have hfirst : Plain [c] := plain_singleton ⟨ne_of_test hc (by decide),
        ne_of_test hc (by decide), ne_of_test hc (by decide)⟩
      exact hfirst.append (ih hcs)

/-- Within quotes everything counts as it stands, up to the same quote. -/
theorem tagIndex_quoted {cs : List Char} (h : '"' ∉ cs) (n : Nat) (rest : List Char) :
    tagIndex (some '"') n (cs ++ '"' :: rest) = tagIndex none (n + cs.length + 1) rest := by
  induction cs generalizing n with
  | nil =>
      rw [List.nil_append, tagIndex]
      simp
  | cons c cs ih =>
      obtain ⟨hc, hcs⟩ := not_or.mp (mt List.mem_cons.mpr h)
      rw [List.cons_append, tagIndex]
      simp only [beq_eq_false_iff_ne.mpr (Ne.symm hc), Bool.false_eq_true, if_false]
      rw [ih hcs, List.length_cons]
      congr 1
      omega

theorem plain_quoted {cs : List Char} (h : '"' ∉ cs) : Plain ('"' :: (cs ++ ['"'])) := by
  intro n rest
  have hopen : tagIndex none n ('"' :: (cs ++ '"' :: rest)) =
      tagIndex (some '"') (n + 1) (cs ++ '"' :: rest) := rfl
  rw [List.cons_append, List.append_assoc, List.singleton_append, hopen, tagIndex_quoted h]
  simp only [List.length_cons, List.length_append, List.length_nil]
  congr 1
  omega

end Index

section Attributes

variable {key : String} {value : List Char}

theorem takeWhile_key {cs : List Char} (h : ∀ c ∈ cs, isNameChar c = true) (rest : List Char) :
    (cs ++ '=' :: rest).takeWhile (fun c => c != '=' && !isSpace c) = cs := by
  refine takeWhile_append_of_head? (fun c hc => ?_) (by simp)
  simp [isSpace_of_isNameChar (h c hc), ne_of_test (h c hc) (x := '=') (by decide)]

/-- An attribute is read as it is written, if its name is a new one. -/
theorem attributesFrom_written (hkey : isName key = true) (hvalue : '"' ∉ value)
    {seen : List (List Char × Nat)} (hseen : seen.lookup key.toList = none) (offset : Nat)
    (rest : List Char) : ∃ start offset',
      attributesFrom (some seen) offset
          (' ' :: (key.toList ++ '=' :: '"' :: (value ++ '"' :: rest))) =
        .ok ⟨key.toList, value⟩ ::
          attributesFrom (some ((key.toList, start) :: seen)) offset' rest := by
  obtain ⟨c, cs, hname, -, hc, hcs⟩ := exists_of_isName hkey
  rw [hname] at hseen ⊢
  generalize hquoted : '"' :: (value ++ '"' :: rest) = quoted
  have hfirst : (' ' :: (c :: cs ++ '=' :: quoted)).dropWhile isSpace =
      c :: (cs ++ '=' :: quoted) := by
    simp [isSpace_of_isNameChar hc, show isSpace ' ' = true from rfl]
  have hbehind : (cs ++ '=' :: quoted).drop ((c :: cs).length - 1) = '=' :: quoted := List.drop_left
  have hend : (value ++ '"' :: rest).takeWhile (· != '"') = value :=
    takeWhile_append_of_head? (fun x hx => bne_iff_ne.mpr fun heq => hvalue (heq ▸ hx)) (by simp)
  rw [attributesFrom]
  -- The reader looks at what is left three times, and each time it stands as it was written.
  split
  · next h =>
    rw [hfirst] at h
    cases h
  · next first more h =>
    rw [hfirst] at h
    cases h
    dsimp only
    simp only [takeWhile_key hcs]
    split
    · next afterEquals h =>
      rw [takeWhile_key hcs, hbehind] at h
      cases h
      dsimp only [Option.bind_some]
      rw [hseen]
      dsimp only
      subst hquoted
      split
      · next h => cases h
      · next q more h =>
        cases h
        have hlength : value.length < (value ++ '"' :: rest).length := by simp
        have hdrop : (value ++ '"' :: rest).drop (value.length + 1) = rest := by simp
        rw [hend]
        simp only [beq_self_eq_true, Bool.true_or, if_true, if_pos hlength, hdrop]
        exact ⟨_, _, rfl⟩
    · next hequals =>
      rw [takeWhile_key hcs, hbehind] at hequals
      exact absurd rfl (hequals quoted)

theorem attributesFrom_flatMap {attributes : List Attribute}
    (hnames : ∀ a ∈ attributes, isName a.1 = true) (hdistinct : (attributes.map (·.1)).Nodup)
    {seen : List (List Char × Nat)} (hseen : ∀ a ∈ attributes, seen.lookup a.1.toList = none)
    (offset : Nat) : attributesFrom (some seen) offset (attributes.flatMap attributeChars) =
      attributes.map fun a => .ok ⟨a.1.toList, a.2.toList.flatMap escapeValueChar⟩ := by
  induction attributes generalizing seen offset with
  | nil => rw [List.flatMap_nil, attributesFrom.eq_def]; rfl
  | cons a attributes ih =>
      obtain ⟨hname, hnames⟩ := List.forall_mem_cons.mp hnames
      obtain ⟨hnew, hseen⟩ := List.forall_mem_cons.mp hseen
      obtain ⟨hother, hdistinct⟩ := List.nodup_cons.mp hdistinct
      have hvalue := not_mem_flatMap quote_not_mem_escapeValueChar a.2.toList
      obtain ⟨start, offset', hfirst⟩ :=
        attributesFrom_written hname hvalue hnew offset (attributes.flatMap attributeChars)
      have hchars : (a :: attributes).flatMap attributeChars = ' ' :: (a.1.toList ++ '=' :: '"' ::
          (a.2.toList.flatMap escapeValueChar ++ '"' :: attributes.flatMap attributeChars)) := by
        simp [attributeChars]
      rw [hchars, hfirst, ih hnames hdistinct (fun x hx => ?_), List.map_cons]
      have hne : (x.1.toList == a.1.toList) = false := by
        refine beq_eq_false_iff_ne.mpr fun heq => hother ?_
        exact List.mem_map.mpr ⟨x, hx, String.toList_injective heq⟩
      rw [List.lookup_cons, hne]
      exact hseen x hx

theorem resolveAttributes_written (attributes : List Attribute) :
    resolveAttributes true (attributes.map fun a =>
      .ok ⟨a.1.toList, a.2.toList.flatMap escapeValueChar⟩) = .ok attributes := by
  induction attributes with
  | nil => rfl
  | cons a attributes ih =>
      rw [List.map_cons, resolveAttributes, ih, resolveText_flatMap denotes_escapeValueChar]
      dsimp only
      rw [String.ofList_toList]
      rfl

end Attributes

section Tags

variable {name : String} {attributes : List Attribute}

theorem toList_printAttribute (a : Attribute) : (printAttribute a).toList = attributeChars a := by
  simp [printAttribute, attributeChars, escapeValue]

theorem toList_printTagStart :
    (printTagStart name attributes).toList = '<' :: tagChars name attributes := by
  simp [printTagStart, tagChars, List.flatMap_map, toList_printAttribute]

theorem head?_flatMap_attributeChars :
    ∀ x ∈ (attributes.flatMap attributeChars).head?, x = ' ' := by
  cases attributes with
  | nil => simp
  | cons a attributes => simp [attributeChars]

theorem name_tagChars (hname : isName name = true) :
    Tag.name ⟨tagChars name attributes⟩ = name.toList := by
  refine takeWhile_append_of_head? (fun c hc => ?_) fun x hx => ?_
  · rw [isSpace_of_isNameChar (isNameChar_of_isName hname c hc)]
    rfl
  · rw [head?_flatMap_attributeChars x hx]
    rfl

theorem plain_attributeChars {a : Attribute} (ha : isName a.1 = true) :
    Plain (attributeChars a) := by
  have hvalue := plain_quoted (not_mem_flatMap quote_not_mem_escapeValueChar a.2.toList)
  have hkey := plain_of_isNameChar (isNameChar_of_isName ha)
  have hequals := (plain_singleton (c := '=') (by decide)).append hvalue
  exact (plain_singleton (c := ' ') (by decide)).append (hkey.append hequals)

theorem plain_tagChars (hname : isName name = true)
    (hnames : ∀ a ∈ attributes, isName a.1 = true) : Plain (tagChars name attributes) :=
  (plain_of_isNameChar (isNameChar_of_isName hname)).append
    (.flatMap fun a ha => plain_attributeChars (hnames a ha))

/-- A tag ends in a quote or in its name, never in the slash of an empty one. -/
theorem getLast?_tagChars (hname : isName name = true) :
    (tagChars name attributes).getLast? ≠ some '/' := by
  obtain rfl | ⟨others, a, rfl⟩ := attributes.eq_nil_or_concat
  · rw [tagChars, List.flatMap_nil, List.append_nil]
    intro hslash
    cases isNameChar_of_isName hname '/' (List.mem_of_getLast? hslash)
  · simp [tagChars, attributeChars, List.getLast?_cons]

/-- An element is opened as it was written. -/
theorem openTag_tagChars (hname : isName name = true)
    (hnames : ∀ a ∈ attributes, isName a.1 = true) (hdistinct : (attributes.map (·.1)).Nodup)
    (b : Builder) :
    openTag true b ⟨tagChars name attributes⟩ = .ok (b.openElement name attributes) := by
  have hread : Tag.attributes ⟨tagChars name attributes⟩ true =
      attributes.map fun a => .ok ⟨a.1.toList, a.2.toList.flatMap escapeValueChar⟩ := by
    rw [Tag.attributes, name_tagChars hname, if_pos rfl, tagChars, List.drop_left]
    exact attributesFrom_flatMap hnames hdistinct (fun _ _ => rfl) _
  rw [openTag, hread, resolveAttributes_written, name_tagChars hname, String.ofList_toList]
  rfl

end Tags

end Harvest.Xml
