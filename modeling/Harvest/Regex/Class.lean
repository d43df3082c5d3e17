import Harvest.Text.Folding
import Harvest.Text.Property
import Harvest.Text.Search

/-!
The character classes that have names in regular expressions.
-/

namespace Harvest.Regex

open Harvest.Text

/-- The classes that are written as a backslash and a letter. -/
inductive ShortClass
  | digit
  | space
  | word
  deriving DecidableEq, Repr

/-- The members of a short class, among all characters or among those of ASCII. -/
def ShortClass.set (ascii : Bool) : ShortClass → CodeSet
  | .digit => if ascii then .range 48 57 else categorySet "Nd"
  | .space => if ascii then (CodeSet.range 9 13).union (.single 32) else blankSet
  | .word =>
    if ascii then CodeSet.unions [.range 48 57, .range 65 90, .single 95, .range 97 122]
    else wordSet

def ShortClass.ofLetter? (c : Char) : Option (ShortClass × Bool) :=
  match c with
  | 'd' => some (.digit, false)
  | 's' => some (.space, false)
  | 'w' => some (.word, false)
  | 'D' => some (.digit, true)
  | 'S' => some (.space, true)
  | 'W' => some (.word, true)
  | _ => none

/-- The members of a class that is named between colons in brackets. -/
def asciiClass? (name : List Char) : Option CodeSet :=
  let digits := CodeSet.range 48 57
  let capitals := CodeSet.range 65 90
  let smalls := CodeSet.range 97 122
  let letters := capitals.union smalls
  match String.ofList name with
  | "alnum" => some (digits.union letters)
  | "alpha" => some letters
  | "ascii" => some (.range 0 127)
  | "blank" => some ((CodeSet.single 9).union (.single 32))
  | "cntrl" => some ((CodeSet.range 0 31).union (.single 127))
  | "digit" => some digits
  | "graph" => some (.range 33 126)
  | "lower" => some smalls
  | "print" => some (.range 32 126)
  | "punct" => some (CodeSet.unions [.range 33 47, .range 58 64, .range 91 96, .range 123 126])
  | "space" => some ((CodeSet.range 9 13).union (.single 32))
  | "upper" => some capitals
  | "word" => some (CodeSet.unions [digits, letters, .single 95])
  | "xdigit" => some (CodeSet.unions [digits, .range 65 70, .range 97 102])
  | _ => none

/-- The members of a class that is named by a Unicode property: its name, or a property and its
value with one of the signs `!=`, `:` and `=` between them, which all ask for that value. -/
def propertyClass? (name : List Char) : Option CodeSet :=
  match splitAtFirst? ['!', '='] name <|> splitAtFirst? [':'] name <|> splitAtFirst? ['='] name with
  | some (property, value) => valueSet? property value
  | none => namedSet? name

end Harvest.Regex
