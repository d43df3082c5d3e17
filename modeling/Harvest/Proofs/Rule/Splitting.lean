import Harvest.Proofs.Text.Runs
import Harvest.Rule.Interpreter
import Mathlib

/-!
Splitting a text and collecting the parts.

A split parts a text at each character of a delimiter, and a collection puts texts together with a
whole separator between each two, trimmed, without the blank ones. With one text for both, what is
collected has the separator once wherever there had been characters of it before, and no blanks next
to it. So the split of what has been collected gives what went into it, and it is collected to
itself.
-/

namespace Harvest.Rule

open Harvest.Text

def splitBy (d : String) : Rule := .mk .split (.ofList [("delimiter", d)]) []

def collectBy (d : String) : Rule := .mk .collect (.ofList [("separator", d)]) [splitBy d]

/-- Parts of a text, trimmed, the blank ones left out. -/
def fields (parts : List (List Char)) : List String :=
  ((parts.map String.ofList).map trim).filter (!·.isEmpty)

/-- A text that neither a collection with `d` nor a split at `d` changes. -/
structure IsField (d field : String) : Prop where
  nonempty : field ≠ ""
  trimmed : trim field = field
  unparted : ∀ c ∈ field.toList, d.toList.contains c = false

section Fields

variable {d : String} {ts : List String}

/-- What is left of the runs of a text are fields. -/
theorem isField_of_mem_fields {s : String} :
    ∀ t ∈ fields (runs (d.toList.contains ·) s.toList), IsField d t := by
  intro t ht
  obtain ⟨htrimmed, hnonempty⟩ := List.mem_filter.mp ht
  obtain ⟨_, huntrimmed, rfl⟩ := List.mem_map.mp htrimmed
  obtain ⟨part, hpart, rfl⟩ := List.mem_map.mp huntrimmed
  refine ⟨by simpa using hnonempty, trim_trim _, fun c hc => ?_⟩
  rw [toList_trim, String.toList_ofList] at hc
  exact ((maximalRuns_runs _ s.toList).forall_mem part hpart).2 c ((trimChars_sublist part).subset hc)

theorem fields_map_toList (h : ∀ t ∈ ts, IsField d t) : fields (ts.map String.toList) = ts := by
  have hparts : (ts.map String.toList).map String.ofList = ts := by simp
  have htrimmed : ts.map trim = ts :=
    (List.map_congr_left fun t ht => (h t ht).trimmed).trans ts.map_id
  rw [fields, hparts, htrimmed, List.filter_eq_self]
  intro t ht
  simpa using (h t ht).nonempty

/-- Fields put together are the maximal runs of the whole. -/
theorem runs_join (hd : d ≠ "") (h : ∀ t ∈ ts, IsField d t) :
    runs (d.toList.contains ·) (join d ts).toList = ts.map String.toList := by
  refine maximalRuns_iff.mp ?_
  rw [join, String.toList_intercalate]
  refine maximalRuns_intercalate (by simpa using hd) (by simp) fun part hpart => ?_
  obtain ⟨t, ht, rfl⟩ := List.mem_map.mp hpart
  exact ⟨by simpa using (h t ht).nonempty, (h t ht).unparted⟩

theorem join_eq_empty_iff (hd : d ≠ "") (h : ∀ t ∈ ts, IsField d t) : join d ts = "" ↔ ts = [] := by
  constructor
  · intro hempty
    have hruns := runs_join hd h
    rw [hempty] at hruns
    exact List.map_eq_nil_iff.mp hruns.symm
  · rintro rfl
    rfl

end Fields

section Values

variable {ts : List String}

theorem listOf_scalars (hts : ts ≠ []) : listOf (ts.map .scalar) = .list (ts.map .scalar) := by
  have hpresent : (ts.map Value.scalar).filter (!·.isNull) = ts.map .scalar := by
    rw [List.filter_eq_self]
    rintro v hv
    obtain ⟨t, _, rfl⟩ := List.mem_map.mp hv
    rfl
  rw [listOf, hpresent]
  split
  · next hnil => exact absurd (List.map_eq_nil_iff.mp hnil) hts
  · rfl

theorem joined_scalars (separator : String) (ts : List String) :
    joined separator (listOf (ts.map .scalar)) =
      join separator ((ts.map trim).filter (!·.isEmpty)) := by
  cases ts with
  | nil => rfl
  | cons t ts =>
      have htexts : ((t :: ts).map Value.scalar).filterMap Value.text? = t :: ts := by
        rw [List.filterMap_map]
        exact List.filterMap_some
      rw [listOf_scalars (List.cons_ne_nil t ts), joined, Value.items, htexts]

end Values

theorem tokens_eq {d : String} (hd : d ≠ "") (s : String) :
    tokens (some d) s = (runs (d.toList.contains ·) s.toList).map String.ofList := by
  have hsome : d.toList.isEmpty = false := by simpa using hd
  simp [tokens, hsome]

theorem attr?_of_plain {attributes : SortedMap String} {label raw : String}
    (h : attributes.get? label = some raw) (hplain : ∀ name, raw ≠ "$" ++ name) :
    attr? attributes label = pure (some raw) := by
  funext bag
  have hread : attr? attributes label bag = (.ok ((attributes.get? label).bind bag.resolve?), bag) :=
    rfl
  rw [hread, h, Option.bind_some, bag.resolve?_plain hplain]
  rfl

section Evaluations

variable (base : Option Url) {d : String} (hd : d ≠ "") (hplain : ∀ name, d ≠ "$" ++ name)
include hd hplain

theorem evaluate_splitBy (s : String) :
    evaluate base (.text s) (splitBy d) =
      pure (listOf (((runs (d.toList.contains ·) s.toList).map String.ofList).map .scalar)) := by
  have hread : attr? (.ofList [("delimiter", d)]) "delimiter" = pure (some d) :=
    attr?_of_plain (SortedMap.get?_insert _ _ _) hplain
  simp only [splitBy, evaluate, evaluateFirst, hread, pure_bind, tokens_eq hd, List.mapM_pure]

theorem evaluate_collectBy (s : String) :
    evaluate base (.text s) (collectBy d) =
      let ts := fields (runs (d.toList.contains ·) s.toList)
      pure (if ts = [] then .null else .scalar (join d ts)) := by
  have hread : attr? (.ofList [("separator", d)]) "separator" = pure (some d) :=
    attr?_of_plain (SortedMap.get?_insert _ _ _) hplain
  have hempty := join_eq_empty_iff hd (isField_of_mem_fields (d := d) (s := s))
  simp only [collectBy, evaluate, hread, pure_bind, evaluate_splitBy base hd hplain, joined_scalars,
    chain, Option.getD_some]
  rw [← fields]
  simp only [String.isEmpty_iff, hempty]
  split <;> rfl

variable {ts : List String} (hts : ts ≠ []) (h : ∀ t ∈ ts, IsField d t)
include hts h

theorem evaluate_splitBy_join :
    evaluate base (.text (join d ts)) (splitBy d) = pure (.list (ts.map .scalar)) := by
  have htexts : (ts.map String.toList).map String.ofList = ts := by simp
  rw [evaluate_splitBy base hd hplain, runs_join hd h, htexts, listOf_scalars hts]

theorem evaluate_collectBy_join :
    evaluate base (.text (join d ts)) (collectBy d) = pure (.scalar (join d ts)) := by
  rw [evaluate_collectBy base hd hplain, runs_join hd h, fields_map_toList h]
  exact congrArg pure (if_neg hts)

end Evaluations

/-- What is collected with `d` from the split of a text at the characters of `d` is a normal form.
Where all of its maximal runs without such characters are blank, it is nothing. Elsewhere it is the
text of these, trimmed and with `d` between each two: to split it gives each of them back, and to
collect it gives it again. -/
theorem collect_split_normal_form (base : Option Url) {d : String} (hd : d ≠ "")
    (hplain : ∀ name, d ≠ "$" ++ name) (s : String) :
    ∃ parts, (∀ rs, MaximalRuns (d.toList.contains ·) s.toList rs ↔ parts = rs) ∧
      (fields parts = [] → evaluate base (.text s) (collectBy d) = pure .null) ∧
      (fields parts ≠ [] → ∃ t, t = join d (fields parts) ∧
        evaluate base (.text s) (collectBy d) = pure (.scalar t) ∧
        evaluate base (.text t) (splitBy d) = pure (.list ((fields parts).map .scalar)) ∧
        evaluate base (.text t) (collectBy d) = pure (.scalar t)) := by
  refine ⟨runs (d.toList.contains ·) s.toList, fun rs => maximalRuns_iff, fun hnone => ?_,
    fun hsome => ⟨_, rfl, ?_, ?_, ?_⟩⟩
  · rw [evaluate_collectBy base hd hplain]
    exact congrArg pure (if_pos hnone)
  · rw [evaluate_collectBy base hd hplain]
    exact congrArg pure (if_neg hsome)
  · exact evaluate_splitBy_join base hd hplain hsome isField_of_mem_fields
  · exact evaluate_collectBy_join base hd hplain hsome isField_of_mem_fields

/-- Names between semicolons and commas, one of them blank, are collected with both marks between
each two, and from blanks between such marks nothing is collected. -/
theorem collect_split_normal_form_names :
    ";," ≠ "" ∧ (∀ name, ";," ≠ "$" ++ name) ∧
      evaluate none (.text "Ada; Bob ,, ;Cy") (collectBy ";,") = pure (.scalar "Ada;,Bob;,Cy") ∧
      evaluate none (.text "Ada;,Bob;,Cy") (splitBy ";,") =
        pure (.list [.scalar "Ada", .scalar "Bob", .scalar "Cy"]) ∧
      evaluate none (.text "Ada;,Bob;,Cy") (collectBy ";,") = pure (.scalar "Ada;,Bob;,Cy") ∧
      evaluate none (.text " ;, ") (collectBy ";,") = pure .null := by
  have hplain (name : String) : ";," ≠ "$" ++ name := fun h => by
    simpa using congrArg String.toList h
  obtain ⟨names, hnames, _, hsome⟩ :=
    collect_split_normal_form none (by decide) hplain "Ada; Bob ,, ;Cy"
  obtain ⟨blanks, hblanks, hnone, _⟩ := collect_split_normal_form none (by decide) hplain " ;, "
  obtain rfl : names = ["Ada".toList, " Bob ".toList, " ".toList, "Cy".toList] :=
    (hnames _).mp (maximalRuns_iff.mpr (by decide))
  obtain rfl : blanks = [" ".toList, " ".toList] :=
    (hblanks _).mp (maximalRuns_iff.mpr (by decide))
  obtain ⟨t, rfl, hcollect, hsplit, hagain⟩ := hsome (by decide)
  exact ⟨by decide, hplain, hcollect, hsplit, hagain, hnone (by decide)⟩

end Harvest.Rule
