import Harvest.Text.Blank
import Harvest.Text.CodeSet

/-!
Character and entity references in XML text.

A reference begins with an ampersand and ends with the next semicolon. The five predefined entities
and the numbers of characters are known; anything else makes the whole text unreadable.
-/

namespace Harvest.Xml

open Harvest.Text

inductive NumberFault
  | sign
  | missing
  | badDigit
  | tooLarge
  | notACharacter (code : Nat)
  | notPermitted (code : Nat)
  deriving DecidableEq, Repr

/-- Why a text with references cannot be read; ranges are in bytes from its start. -/
inductive ReferenceFault
  | unrecognized (first last : Nat) (name : String)
  | unterminated (first last : Nat)
  | number (fault : NumberFault)
  deriving DecidableEq, Repr

def NumberFault.message : NumberFault → String
  | .sign => "unexpected number sign"
  | .missing => "cannot parse integer from empty string"
  | .badDigit => "invalid digit found in string"
  | .tooLarge => "number too large to fit in target type"
  | .notACharacter code => "\x60" ++ toString code ++ "\x60 is not a valid codepoint"
  | .notPermitted code =>
    "0x" ++ String.ofList (Nat.toDigits 16 code) ++ " character is not permitted in XML"

def ReferenceFault.message : ReferenceFault → String
  | .unrecognized first last name =>
    "at " ++ toString first ++ ".." ++ toString last ++ ": unrecognized entity \x60" ++ name ++
      "\x60"
  | .unterminated first last =>
    "Error while escaping character at range " ++ toString first ++ ".." ++ toString last ++
      ": Cannot find ';' after '&'"
  | .number fault => "invalid character reference: " ++ fault.message

/-- The digits of a number to a base, each of which has to be a digit and may not carry the number
past 32 bits. -/
def readNumber (base : Nat) (acc : Nat) : List Char → Except NumberFault Nat
  | [] => .ok acc
  | c :: cs =>
    match hexDigit? c with
    | none => .error .badDigit
    | some d =>
      if base ≤ d then .error .badDigit
      else if acc * base + d < 0x100000000 then readNumber base (acc * base + d) cs
      else .error .tooLarge

def readUnsigned (base : Nat) (cs : List Char) : Except NumberFault Nat :=
  match cs with
  | [] => .error .missing
  | '+' :: _ => .error .sign
  | '-' :: _ => .error .sign
  | cs => readNumber base 0 cs

/-- The character of a number, decimal or after an `x` hexadecimal. -/
def numberedChar (cs : List Char) : Except NumberFault Char := do
  let code ← match cs with
    | 'x' :: digits => readUnsigned 16 digits
    | digits => readUnsigned 10 digits
  if code = 0 then throw (.notPermitted code)
  else if code.isValidChar then return Char.ofNat code
  else throw (.notACharacter code)

def predefined? : List Char → Option Char
  | ['l', 't'] => some '<'
  | ['g', 't'] => some '>'
  | ['a', 'm', 'p'] => some '&'
  | ['a', 'p', 'o', 's'] => some '\''
  | ['q', 'u', 'o', 't'] => some '"'
  | _ => none

/-- What a reference stands for; `first` is the byte offset of its name. -/
def dereference (first : Nat) (name : List Char) : Except ReferenceFault Char :=
  match name with
  | '#' :: digits => (numberedChar digits).mapError .number
  | _ =>
    match predefined? name with
    | some c => .ok c
    | none => .error (.unrecognized first (first + byteSize name) (String.ofList name))

/-- The rest of a text with its references replaced; `offset` is its byte offset and `size` the
size of the whole. -/
def unescapeFrom (size offset : Nat) : List Char → Except ReferenceFault (List Char)
  | [] => .ok []
  | c :: cs => do
    if c = '&' then
      let name := cs.takeWhile fun c => c != '&' && c != ';'
      match cs.drop name.length with
      | ';' :: _ =>
        let char ← dereference (offset + 1) name
        let rest ← unescapeFrom size (offset + 2 + byteSize name) (cs.drop (name.length + 1))
        return char :: rest
      | _ => throw (.unterminated offset size)
    else
      let rest ← unescapeFrom size (offset + c.utf8Size) cs
      return c :: rest
  termination_by cs => cs.length
  decreasing_by
    · simp only [List.length_drop, List.length_cons]
      omega
    · simp

def unescape (cs : List Char) : Except ReferenceFault (List Char) :=
  unescapeFrom (byteSize cs) 0 cs

end Harvest.Xml
