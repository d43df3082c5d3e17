import Harvest.Catalog.Mapping
import Harvest.Proofs.Text.Runs
import Harvest.Proofs.Text.Slices
import Mathlib.Data.Nat.Digits.Defs

/-!
Which year a text names.

A year is looked for among the bytes of a text, with a window of four of them that is moved on byte
by byte. A digit is one byte and no byte of another character is a digit, so the window stops at the
first maximal run of digits that is four digits long, and what is cut out there are whole
characters.
-/

namespace Harvest.Catalog

open Harvest.Text

/-! Digits among the bytes of a character. -/

theorem isDigitByte_iff {b : UInt8} : isDigitByte b = true ↔ 48 ≤ b.toNat ∧ b.toNat ≤ 57 := by
  simp [isDigitByte, UInt8.le_iff_toNat_le]

theorem isAsciiDigit_iff {c : Char} : isAsciiDigit c = true ↔ 48 ≤ c.toNat ∧ c.toNat ≤ 57 := by
  simp [isAsciiDigit]

/-- A digit is a byte of its own. -/
theorem utf8EncodeChar_of_isAsciiDigit {c : Char} (h : isAsciiDigit c = true) :
    ∃ b, String.utf8EncodeChar c = [b] ∧ isDigitByte b = true := by
  obtain ⟨hleast, hmost⟩ := isAsciiDigit_iff.mp h
  have hsmall : c.val.toNat ≤ 127 := Nat.le_trans hmost (by decide)
  refine ⟨UInt8.ofNat c.val.toNat, if_pos hsmall, isDigitByte_iff.mpr ?_⟩
  rw [UInt8.toNat_ofNat', Nat.mod_eq_of_lt (by omega)]
  exact ⟨hleast, hmost⟩

/-- The bytes of a character beyond ASCII are all beyond ASCII. -/
theorem isDigitByte_of_mem_utf8EncodeChar {c : Char} (h : isAsciiDigit c = false) :
    ∀ b ∈ String.utf8EncodeChar c, isDigitByte b = false := by
  have hout : ¬ (48 ≤ c.val.toNat ∧ c.val.toNat ≤ 57) := fun hin => by
    rw [isAsciiDigit_iff.mpr hin] at h
    cases h
  intro b hb
  rw [Bool.eq_false_iff, Ne, isDigitByte_iff]
  unfold String.utf8EncodeChar at hb
  dsimp only at hb
  split at hb
  · next hsmall =>
    obtain rfl := List.mem_singleton.mp hb
    rw [UInt8.toNat_ofNat', Nat.mod_eq_of_lt (by omega)]
    exact hout
  · have hbeyond : 128 ≤ b.toNat := by
      split_ifs at hb
      all_goals
        simp only [List.mem_cons, List.not_mem_nil, or_false] at hb
        rcases hb with rfl | rfl | rfl | rfl <;> rw [UInt8.toNat_ofNat'] <;> omega
    omega

theorem isDigitByte_of_mem_bytesOf {gap : List Char} (h : ∀ c ∈ gap, isAsciiDigit c = false) :
    ∀ b ∈ bytesOf gap, isDigitByte b = false := by
  intro b hb
  obtain ⟨c, hc, hb⟩ := List.mem_flatMap.mp hb
  exact isDigitByte_of_mem_utf8EncodeChar (h c hc) b hb

/-- Digits take one byte each. -/
theorem bytesOf_digits {run : List Char} (h : ∀ c ∈ run, isAsciiDigit c = true) :
    (∀ b ∈ bytesOf run, isDigitByte b = true) ∧ (bytesOf run).length = run.length := by
  induction run with
  | nil => exact ⟨List.forall_mem_nil _, rfl⟩
  | cons c run ih =>
      obtain ⟨hc, hrun⟩ := List.forall_mem_cons.mp h
      obtain ⟨b, hb, hdigit⟩ := utf8EncodeChar_of_isAsciiDigit hc
      obtain ⟨hdigits, hlength⟩ := ih hrun
      rw [bytesOf, List.flatMap_cons, hb, ← bytesOf]
      exact ⟨List.forall_mem_cons.mpr ⟨hdigit, hdigits⟩, congrArg (· + 1) hlength⟩

theorem isDigitByte_head?_bytesOf {rest : List Char}
    (h : ∀ c ∈ rest.head?, isAsciiDigit c = false) :
    ∀ b ∈ (bytesOf rest).head?, isDigitByte b = false := by
  cases rest with
  | nil => simp [bytesOf]
  | cons c rest =>
      intro b hb
      refine isDigitByte_of_mem_utf8EncodeChar (h c rfl) b ?_
      have hne : String.utf8EncodeChar c ≠ [] := fun hnil => by
        have hlength := String.length_utf8EncodeChar c
        have hpos := c.utf8Size_pos
        rw [hnil, List.length_nil] at hlength
        omega
      rw [bytesOf, List.flatMap_cons, List.head?_append_of_ne_nil _ hne] at hb
      exact List.mem_of_mem_head? hb

/-! The window on a row of bytes. -/

section Window

variable {run rest gap : List UInt8} {b : UInt8}

theorem beginsYear_of_not_digit (h : isDigitByte b = false) : beginsYear (b :: rest) = false := by
  simp [beginsYear, h]

/-- At the front of a run the window holds a year if the run is as long as the window. -/
theorem beginsYear_run (hrun : ∀ b ∈ run, isDigitByte b = true)
    (hend : ∀ b ∈ rest.head?, isDigitByte b = false) :
    beginsYear (run ++ rest) = (run.length == 4) := by
  match run with
  | [] | [_] | [_, _] | [_, _, _] =>
      cases rest with
      | nil => simp [beginsYear]
      | cons e rest => simp [beginsYear, hend e rfl]
  | [_, _, _, _] =>
      cases rest with
      | nil => simpa [beginsYear] using hrun
      | cons e rest => simpa [beginsYear, hend e rfl] using hrun
  | _ :: _ :: _ :: _ :: e :: _ => simp [beginsYear, hrun e (by simp)]

/-- No year begins where there is no digit. -/
theorem yearPlace?_gap (hgap : ∀ b ∈ gap, isDigitByte b = false) (place : Nat) :
    yearPlace? false place (gap ++ rest) = yearPlace? false (place + gap.length) rest := by
  induction gap generalizing place with
  | nil => rfl
  | cons b gap ih =>
      obtain ⟨hb, hgap⟩ := List.forall_mem_cons.mp hgap
      rw [List.cons_append, yearPlace?, beginsYear_of_not_digit hb, hb, ih hgap, List.length_cons]
      simp [Nat.add_comm, Nat.add_left_comm]

/-- Behind a run it does not matter that there was a digit. -/
theorem yearPlace?_behindDigit (hend : ∀ b ∈ rest.head?, isDigitByte b = false) (place : Nat) :
    yearPlace? true place rest = yearPlace? false place rest := by
  cases rest with
  | nil => rfl
  | cons b rest =>
      rw [yearPlace?, yearPlace?, beginsYear_of_not_digit (hend b rfl), Bool.false_and, Bool.false_and]

/-- Nor does a year begin within a run. -/
theorem yearPlace?_within (hrun : ∀ b ∈ run, isDigitByte b = true)
    (hend : ∀ b ∈ rest.head?, isDigitByte b = false) (place : Nat) :
    yearPlace? true place (run ++ rest) = yearPlace? false (place + run.length) rest := by
  induction run generalizing place with
  | nil => exact yearPlace?_behindDigit hend place
  | cons b run ih =>
      obtain ⟨hb, hrun⟩ := List.forall_mem_cons.mp hrun
      rw [List.cons_append, yearPlace?, hb, ih hrun, List.length_cons]
      simp [Nat.add_comm, Nat.add_left_comm]

theorem yearPlace?_run (hne : run ≠ []) (hrun : ∀ b ∈ run, isDigitByte b = true)
    (hend : ∀ b ∈ rest.head?, isDigitByte b = false) (place : Nat) :
    yearPlace? false place (run ++ rest) =
      if run.length == 4 then some place else yearPlace? false (place + run.length) rest := by
  have hyear := beginsYear_run hrun hend
  obtain ⟨b, run, rfl⟩ := List.exists_cons_of_ne_nil hne
  obtain ⟨hb, hrun⟩ := List.forall_mem_cons.mp hrun
  rw [List.cons_append] at hyear ⊢
  rw [yearPlace?, hyear, hb, yearPlace?_within hrun hend, List.length_cons]
  simp [Nat.add_comm, Nat.add_left_comm]

end Window

/-- The window stops at the first run that is four digits long. -/
theorem yearPlace?_of_maximalRuns {cs : List Char} {rs : List (List Char)}
    (h : MaximalRuns (fun c => !isAsciiDigit c) cs rs) (place : Nat) :
    match rs.find? (·.length == 4) with
    | none => yearPlace? false place (bytesOf cs) = none
    | some run => (∀ c ∈ run, isAsciiDigit c = true) ∧ ∃ before after, cs = before ++ run ++ after ∧
        yearPlace? false place (bytesOf cs) = some (place + byteSize before) := by
  induction h generalizing place with
  | @none gap hgap =>
      have hgap : ∀ b ∈ bytesOf gap, isDigitByte b = false :=
        isDigitByte_of_mem_bytesOf (by simpa using hgap)
      rw [List.find?_nil, ← List.append_nil (bytesOf gap)]
      exact yearPlace?_gap hgap place
  | @next gap run rest later hgap hne hrun hend _ ih =>
      have hgap : ∀ b ∈ bytesOf gap, isDigitByte b = false :=
        isDigitByte_of_mem_bytesOf (by simpa using hgap)
      have hrun : ∀ c ∈ run, isAsciiDigit c = true := by simpa using hrun
      have hend : ∀ b ∈ (bytesOf rest).head?, isDigitByte b = false :=
        isDigitByte_head?_bytesOf (by simpa using hend)
      obtain ⟨hdigits, hlength⟩ := bytesOf_digits hrun
      have hnonempty : bytesOf run ≠ [] := fun hnil => by
        rw [hnil, List.length_nil] at hlength
        exact hne (List.length_eq_zero_iff.mp hlength.symm)
      rw [bytesOf_append, bytesOf_append, List.append_assoc, yearPlace?_gap hgap,
        yearPlace?_run hnonempty hdigits hend, hlength, length_bytesOf, List.find?_cons]
      cases hfour : run.length == 4 with
      | true => exact ⟨hrun, gap, rest, rfl, rfl⟩
      | false =>
          -- A run of another length is passed over as a whole.
          have hlater := ih (place + byteSize gap + run.length)
          dsimp only
          cases hfind : later.find? (·.length == 4) with
          | none =>
              rw [hfind] at hlater
              simpa using hlater
          | some found =>
              rw [hfind] at hlater
              obtain ⟨hfound, before, after, rfl, hplace⟩ := hlater
              refine ⟨hfound, gap ++ run ++ before, after, by simp, ?_⟩
              rw [← hlength, length_bytesOf] at hplace
              simpa [Nat.add_assoc, ← hlength, length_bytesOf] using hplace

/-- The first digit counts most. -/
theorem numberOf_eq (digits : List Char) :
    numberOf digits = Nat.ofDigits 10 (digits.reverse.map fun c => c.toNat - 48) := by
  induction digits using List.reverseRecOn with
  | nil => rfl
  | append_singleton digits c ih =>
      rw [numberOf, List.foldl_append, ← numberOf, ih]
      simp [Nat.ofDigits_cons]
      omega

/-- What the window stops at is cut out whole. -/
theorem slice?_yearPlace? {cs : List Char} {rs : List (List Char)}
    (h : MaximalRuns (fun c => !isAsciiDigit c) cs rs) :
    match rs.find? (·.length == 4) with
    | none => yearPlace? false 0 (bytesOf cs) = none
    | some run => ∃ place, yearPlace? false 0 (bytesOf cs) = some place ∧
        slice? place 4 cs = some run := by
  have hplace := yearPlace?_of_maximalRuns h 0
  cases hfind : rs.find? (·.length == 4) with
  | none => simpa only [hfind] using hplace
  | some run =>
      rw [hfind] at hplace
      obtain ⟨hdigits, before, after, rfl, hplace⟩ := hplace
      have hfour : run.length = 4 := by simpa using List.find?_some hfind
      have hsize : byteSize run = 4 := by rw [← length_bytesOf, (bytesOf_digits hdigits).2, hfour]
      refine ⟨_, hplace, ?_⟩
      rw [Nat.zero_add, ← hsize]
      exact slice?_append before run after

theorem yearOf?_eq {text : String} {rs : List (List Char)}
    (h : MaximalRuns (fun c => !isAsciiDigit c) text.toList rs) :
    yearOf? text = (rs.find? (·.length == 4)).map fun run => Int.ofNat (numberOf run) := by
  have hslice := slice?_yearPlace? h
  unfold yearOf?
  cases hfind : rs.find? (·.length == 4) with
  | none =>
      rw [hfind] at hslice
      rw [hslice]
      rfl
  | some run =>
      rw [hfind] at hslice
      obtain ⟨place, hplace, hslice⟩ := hslice
      simp [hplace, hslice]

/-- A text names a year exactly if one of its maximal runs of digits is four digits long, and the
year is the number that the first such run stands for. What is cut out for it never begins or ends
within a character. -/
theorem year_of_first_four_digits (text : String) :
    ∃ rs, (∀ rs', MaximalRuns (fun c => !isAsciiDigit c) text.toList rs' ↔ rs = rs') ∧
      (∀ y, yearOf? text = some y ↔ ∃ before run after, rs = before ++ run :: after ∧
        (∀ r ∈ before, r.length ≠ 4) ∧ run.length = 4 ∧
        y = Int.ofNat (Nat.ofDigits 10 (run.reverse.map fun c => c.toNat - 48))) ∧
      ((∃ y, yearOf? text = some y) ↔ ∃ run ∈ rs, run.length = 4) ∧
      ∀ place, yearPlace? false 0 (bytesOf text.toList) = some place →
        ∃ run, slice? place 4 text.toList = some run ∧ run ∈ rs := by
  have hruns := maximalRuns_runs (fun c => !isAsciiDigit c) text.toList
  have hyear := yearOf?_eq hruns
  have hslice := slice?_yearPlace? hruns
  refine ⟨_, fun rs => maximalRuns_iff, fun y => ?_, ?_, fun place hplace => ?_⟩
  · rw [hyear, Option.map_eq_some_iff]
    constructor
    · rintro ⟨run, hfind, rfl⟩
      obtain ⟨hfour, before, after, hrs, hbefore⟩ := List.find?_eq_some_iff_append.mp hfind
      exact ⟨before, run, after, hrs, by simpa using hbefore, by simpa using hfour,
        congrArg Int.ofNat (numberOf_eq run)⟩
    · rintro ⟨before, run, after, hrs, hbefore, hfour, rfl⟩
      refine ⟨run, List.find?_eq_some_iff_append.mpr ⟨by simpa using hfour, before, after, hrs, ?_⟩,
        congrArg Int.ofNat (numberOf_eq run)⟩
      simpa using hbefore
  · simp [hyear, ← Option.isSome_iff_exists]
  · cases hfind : (runs (fun c => !isAsciiDigit c) text.toList).find? (·.length == 4) with
    | none =>
        rw [hfind, hplace] at hslice
        cases hslice
    | some run =>
        rw [hfind] at hslice
        obtain ⟨place', hplace', hrun⟩ := hslice
        rw [hplace] at hplace'
        cases hplace'
        exact ⟨run, hrun, List.mem_of_find?_eq_some hfind⟩

/-- Five digits are no year, and neither they nor longer characters hide the one behind them. -/
example : yearOf? "é12345–1999…2004" = some 1999 := by decide +kernel

end Harvest.Catalog
