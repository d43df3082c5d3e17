import Harvest.Text.CodeSet

/-!
Percent encoding: bytes that may not stand in a part of an address are written as a percent sign and
two hexadecimal digits.
-/

namespace Harvest.Url

open Harvest.Text

def utf8Bytes (c : Char) : List Nat := c.toString.toUTF8.toList.map (·.toNat)

def hexChar (upper : Bool) (n : Nat) : Char :=
  if n < 10 then Char.ofNat (48 + n) else Char.ofNat ((if upper then 55 else 87) + n)

def percentByte (b : Nat) : List Char := ['%', hexChar true (b / 16), hexChar true (b % 16)]

def isControlOrForeign (c : Char) : Bool := c.toNat < 32 || 127 ≤ c.toNat

def inFragmentSet (c : Char) : Bool := isControlOrForeign c || " \"<>\x60".toList.contains c

def inPathSet (c : Char) : Bool := inFragmentSet c || "#?\x7b\x7d".toList.contains c

def inUserinfoSet (c : Char) : Bool := inPathSet c || "/:;=@[\\]^|".toList.contains c

def inQuerySet (c : Char) : Bool := isControlOrForeign c || " \"#<>".toList.contains c

/-- The query of an address with a special scheme has its apostrophes encoded too. -/
def inSpecialQuerySet (c : Char) : Bool := inQuerySet c || c == '\''

/-- A character as it stands in a part of an address whose encoded characters are `set`. -/
def encodeChar (set : Char → Bool) (c : Char) : List Char :=
  if set c then (utf8Bytes c).flatMap percentByte else [c]

def encode (set : Char → Bool) (cs : List Char) : List Char := cs.flatMap (encodeChar set)

/-- The bytes of a text with its percent encoded bytes replaced; a percent sign that no two
hexadecimal digits follow stands for itself. -/
def decodeBytes : List Char → List Nat
  | [] => []
  | '%' :: a :: b :: rest =>
    match hexDigit? a, hexDigit? b with
    | some x, some y => (16 * x + y) :: decodeBytes rest
    | _, _ => 0x25 :: decodeBytes (a :: b :: rest)
  | c :: rest => utf8Bytes c ++ decodeBytes rest

/-- The text whose bytes in UTF-8 are these, none for bytes that are no text. -/
def textOfBytes? (bytes : List Nat) : Option (List Char) :=
  let raw : ByteArray := ⟨(bytes.map Nat.toUInt8).toArray⟩
  (String.fromUTF8? raw).map (·.toList)

end Harvest.Url
