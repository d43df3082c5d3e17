import Harvest.Text.Blank
import Harvest.Xml.Reference

/-!
The attributes of an XML tag.

The content of a tag is its name up to the first blank, then attributes: a key, an equals sign and
a value in quotes. A malformed attribute is reported in its place, and reading goes on behind it
where that is possible. Offsets are in bytes from the start of the content.
-/

namespace Harvest.Xml

open Harvest.Text

/-- The characters that separate the parts of a tag. -/
def isSpace (c : Char) : Bool := c == ' ' || c == '\t' || c == '\n' || c == '\r'

inductive AttributeFault
  | expectedEquals (offset : Nat)
  | expectedValue (offset : Nat)
  | unquoted (offset : Nat)
  | unclosedQuote (offset : Nat) (quote : Char)
  | repeated (offset first : Nat)
  deriving DecidableEq, Repr

def AttributeFault.message : AttributeFault → String
  | .expectedEquals offset => "position " ++ toString offset ++
      ": attribute key must be directly followed by \x60=\x60 or space"
  | .expectedValue offset => "position " ++ toString offset ++
      ": \x60=\x60 must be followed by an attribute value"
  | .unquoted offset => "position " ++ toString offset ++
      ": attribute value must be enclosed in \x60\"\x60 or \x60'\x60"
  | .unclosedQuote offset quote => "position " ++ toString offset ++
      ": missing closing quote \x60" ++ quote.toString ++ "\x60 in attribute value"
  | .repeated offset first => "position " ++ toString offset ++
      ": duplicated attribute, previous declaration at position " ++ toString first

structure RawAttribute where
  key : List Char
  value : List Char
  deriving DecidableEq, Repr

theorem length_dropWhile_le (p : Char → Bool) (cs : List Char) :
    (cs.dropWhile p).length ≤ cs.length := (List.dropWhile_sublist p).length_le

/-- The attributes in the rest of a tag. `seen` holds the keys so far with their offsets where keys
may not be repeated, and is none where they may. -/
def attributesFrom (seen : Option (List (List Char × Nat))) (offset : Nat) (cs : List Char) :
    List (Except AttributeFault RawAttribute) :=
  match _h₁ : cs.dropWhile isSpace with
  | [] => []
  | first :: more =>
    let start := offset + byteSize (cs.takeWhile isSpace)
    let key := first :: more.takeWhile fun c => c != '=' && !isSpace c
    let afterKey := more.drop (key.length - 1)
    let gap := afterKey.takeWhile isSpace
    let keyEnd := start + byteSize key + byteSize gap
    match _h₂ : afterKey.drop gap.length with
    | '=' :: afterEquals =>
      match seen.bind (·.lookup key) with
      | some earlier => [.error (.repeated start earlier)]
      | none =>
        let seen := seen.map ((key, start) :: ·)
        let blanks := afterEquals.takeWhile isSpace
        let valueStart := keyEnd + 1 + byteSize blanks
        match _h₃ : afterEquals.drop blanks.length with
        | [] => [.error (.expectedValue valueStart)]
        | q :: rest =>
          if q == '"' || q == '\'' then
            let value := rest.takeWhile (· != q)
            if value.length < rest.length then
              .ok ⟨key, value⟩ :: attributesFrom seen (valueStart + 2 + byteSize value)
                (rest.drop (value.length + 1))
            else [.error (.unclosedQuote (valueStart + 1 + byteSize value) q)]
          else
            let skipped := rest.takeWhile (!isSpace ·)
            .error (.unquoted valueStart) ::
              attributesFrom seen (valueStart + q.utf8Size + byteSize skipped)
                (rest.drop skipped.length)
    | rest => .error (.expectedEquals keyEnd) :: attributesFrom seen keyEnd rest
  termination_by cs.length
  decreasing_by
    all_goals
      have l₁ := length_dropWhile_le isSpace cs
      have l₀ : afterKey.length ≤ more.length := (List.drop_sublist _ _).length_le
      have l₂ := congrArg List.length _h₂
      simp only [_h₁, List.length_drop, List.length_cons] at l₁ l₂
    · have l₃ := congrArg List.length _h₃
      simp only [List.length_drop, List.length_cons] at l₃ ⊢
      omega
    · have l₃ := congrArg List.length _h₃
      simp only [List.length_drop, List.length_cons] at l₃ ⊢
      omega
    · omega

/-- The content of a tag, between its brackets and without the slash of an empty one. -/
structure Tag where
  content : List Char
  deriving DecidableEq, Repr

namespace Tag

def name (t : Tag) : List Char := t.content.takeWhile (!isSpace ·)

/-- The attributes of the tag. With `unique` a repeated key is a fault. -/
def attributes (t : Tag) (unique : Bool) : List (Except AttributeFault RawAttribute) :=
  attributesFrom (if unique then some [] else none) (byteSize t.name)
    (t.content.drop t.name.length)

end Tag

end Harvest.Xml
