/-!
Texts from bytes that may be no text, the bytes of texts, and parts of texts by their bytes.
-/

namespace Harvest.Text

/-- How many bytes follow a leading byte of UTF-8, and the bounds of the first of them. -/
def following? (lead : Nat) : Option (Nat × Nat × Nat) :=
  if 0xC2 ≤ lead && lead ≤ 0xDF then some (1, 0x80, 0xBF)
  else if lead = 0xE0 then some (2, 0xA0, 0xBF)
  else if lead = 0xED then some (2, 0x80, 0x9F)
  else if 0xE1 ≤ lead && lead ≤ 0xEF then some (2, 0x80, 0xBF)
  else if lead = 0xF0 then some (3, 0x90, 0xBF)
  else if 0xF1 ≤ lead && lead ≤ 0xF3 then some (3, 0x80, 0xBF)
  else if lead = 0xF4 then some (3, 0x80, 0x8F)
  else none

/-- The bytes at the front that may follow a leading byte, `count` at most. -/
def continuation (count least most : Nat) (bytes : List Nat) : List Nat :=
  match count, bytes with
  | 0, _ => []
  | _, [] => []
  | count + 1, b :: rest =>
    if least ≤ b && b ≤ most then b :: continuation count 0x80 0xBF rest else []

/-- The character that begins with a byte, and how many of the bytes behind it belong to it. A
beginning that no character has stands for the replacement character. -/
def readChar (lead : Nat) (rest : List Nat) : Char × Nat :=
  if lead < 0x80 then (Char.ofNat lead, 0)
  else
    match following? lead with
    | none => ('\uFFFD', 0)
    | some (count, least, most) =>
      let found := continuation count least most rest
      if found.length < count then ('\uFFFD', found.length)
      else
        let high := lead % Nat.pow 2 (6 - count)
        (Char.ofNat (found.foldl (fun acc b => acc * 64 + b % 64) high), count)

/-- The text of bytes in UTF-8, with a replacement character for each beginning of a character that
is not carried on. -/
def textOfBytes (bytes : List Nat) : List Char :=
  match bytes with
  | [] => []
  | lead :: rest =>
    let read := readChar lead rest
    read.1 :: textOfBytes (rest.drop read.2)
termination_by bytes.length
decreasing_by simp only [List.length_drop, List.length_cons]; omega

def bytesOf (cs : List Char) : List UInt8 := cs.flatMap String.utf8EncodeChar

/-- What is left of a text behind so many bytes; nothing may be cut within a character. -/
def dropBytes? (count : Nat) (cs : List Char) : Option (List Char) :=
  match count, cs with
  | 0, cs => some cs
  | _, [] => none
  | count, c :: cs =>
    if c.utf8Size ≤ count then dropBytes? (count - c.utf8Size) cs else none

/-- So many bytes of a text from its front; nothing may be cut within a character. -/
def takeBytes? (count : Nat) (cs : List Char) : Option (List Char) :=
  match count, cs with
  | 0, _ => some []
  | _, [] => none
  | count, c :: cs =>
    if c.utf8Size ≤ count then (takeBytes? (count - c.utf8Size) cs).map (c :: ·) else none

/-- The part of a text that begins behind `start` bytes and has `count` of them. There is none where
a character would be cut or the text is too short. -/
def slice? (start count : Nat) (cs : List Char) : Option (List Char) :=
  (dropBytes? start cs).bind (takeBytes? count)

end Harvest.Text
