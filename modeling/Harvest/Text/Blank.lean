/-!
Blank characters and trimming.

A character is blank when it has the Unicode property `White_Space`. Trimming takes blank
characters off one end or both ends of a text and touches nothing between them.
-/

namespace Harvest.Text

/-- The characters of the Unicode property `White_Space`. -/
def isBlank (c : Char) : Bool :=
  let n := c.toNat
  (9 ≤ n && n ≤ 13) || n == 0x20 || n == 0x85 || n == 0xA0 || n == 0x1680 ||
    (0x2000 ≤ n && n ≤ 0x200A) || n == 0x2028 || n == 0x2029 || n == 0x202F ||
    n == 0x205F || n == 0x3000

def trimStart (cs : List Char) : List Char := cs.dropWhile isBlank

def trimEnd (cs : List Char) : List Char := (cs.reverse.dropWhile isBlank).reverse

def trimChars (cs : List Char) : List Char := trimEnd (trimStart cs)

def trim (s : String) : String := String.ofList (trimChars s.toList)

/-- A text of blank characters only; the empty text is one. -/
def isBlankText (s : String) : Bool := s.toList.all isBlank

theorem dropWhile_isBlank_eq_nil_iff {cs : List Char} :
    cs.dropWhile isBlank = [] ↔ cs.all isBlank = true := by
  induction cs with
  | nil => simp
  | cons c cs ih =>
    rw [List.dropWhile_cons, List.all_cons]
    cases hc : isBlank c with
    | true =>
      rw [if_pos rfl, Bool.true_and]
      exact ih
    | false => simp

/-- Trimming leaves nothing of a text exactly if it is blank. -/
theorem trim_eq_empty_iff {s : String} : trim s = "" ↔ isBlankText s = true := by
  rw [trim, String.ofList_eq_empty_iff, isBlankText, ← dropWhile_isBlank_eq_nil_iff]
  rw [trimChars, trimEnd, trimStart, List.reverse_eq_nil_iff, dropWhile_isBlank_eq_nil_iff,
    List.all_reverse]
  constructor
  · intro hall
    cases hrest : s.toList.dropWhile isBlank with
    | nil => rfl
    | cons c cs =>
      -- What is left at the front is not blank, and is not taken from the back either.
      have hfirst := List.head?_dropWhile_not isBlank s.toList
      rw [hrest] at hall hfirst
      rw [List.all_cons, hfirst] at hall
      exact absurd hall Bool.false_ne_true
  · intro hnil
    rw [hnil]
    rfl

/-- The maximal runs of characters that do not satisfy `stop`, in order. -/
def runs (stop : Char → Bool) : List Char → List (List Char)
  | [] => []
  | c :: cs =>
    if stop c then runs stop cs
    else match cs, runs stop cs with
      | [], _ => [[c]]
      | d :: _, rs =>
        if stop d then [c] :: rs
        else match rs with
          | [] => [[c]]
          | r :: rs => (c :: r) :: rs

/-- The words of a text: its maximal runs of characters that are not blank. -/
def words (cs : List Char) : List (List Char) := runs isBlank cs

/-- Members joined with `separator` between each two. -/
def join (separator : String) (members : List String) : String :=
  separator.intercalate members

/-- An ASCII capital in lower case, any other character as it is. -/
def lowerAsciiChar (c : Char) : Char :=
  if 65 ≤ c.toNat ∧ c.toNat ≤ 90 then Char.ofNat (c.toNat + 32) else c

/-- The text with its ASCII capitals, and nothing else, in lower case. -/
def lowerAscii (s : String) : String := String.ofList (s.toList.map lowerAsciiChar)

/-- The size of a text in bytes. -/
def byteSize : List Char → Nat
  | [] => 0
  | c :: cs => c.utf8Size + byteSize cs

end Harvest.Text
