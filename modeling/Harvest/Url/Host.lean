import Harvest.Text.Letter
import Harvest.Url.Domain
import Harvest.Url.Percent

/-!
Hosts of addresses: domain names and numbers.
-/

namespace Harvest.Url

open Harvest.Text

inductive Host
  | domain (name : String)
  | ipv4 (address : Nat)
  | ipv6 (pieces : List Nat)
  deriving DecidableEq, Repr

/-- Why a text is no address. -/
inductive Error
  | emptyHost
  | domain
  | port
  | ipv4
  | ipv6
  | domainCharacter
  | relativeWithoutBase
  | relativeToOpaque
  deriving DecidableEq, Repr

def Error.message : Error → String
  | .emptyHost => "empty host"
  | .domain => "invalid international domain name"
  | .port => "invalid port number"
  | .ipv4 => "invalid IPv4 address"
  | .ipv6 => "invalid IPv6 address"
  | .domainCharacter => "invalid domain character"
  | .relativeWithoutBase => "relative URL without a base"
  | .relativeToOpaque => "relative URL with a cannot-be-a-base base"

def readNumber? (base : Nat) (cs : List Char) : Option Nat :=
  cs.foldlM (fun acc c =>
    match hexDigit? c with
    | some d => if d < base then some (acc * base + d) else none
    | none => none) 0

/-- A part of a dotted number: hexadecimal behind `0x`, octal behind another leading zero. -/
def ipv4Number? (cs : List Char) : Option Nat :=
  match cs with
  | [] => none
  | '0' :: 'x' :: rest => readNumber? 16 rest
  | '0' :: 'X' :: rest => readNumber? 16 rest
  | '0' :: c :: rest => readNumber? 8 (c :: rest)
  | cs => readNumber? 10 cs

/-- The parts of a dotted name, without an empty one at the end. -/
def dottedParts (cs : List Char) : List (List Char) :=
  let parts := cs.splitOn '.'
  if parts.getLast? = some [] then parts.dropLast else parts

/-- Whether the last part of a name is a number, which makes the whole a dotted number. -/
def endsInNumber (cs : List Char) : Bool :=
  match (dottedParts cs).getLast? with
  | none => false
  | some last => (!last.isEmpty && last.all isAsciiDigit) || (ipv4Number? last).isSome

/-- The address that a dotted number stands for: the last part fills what the others leave. -/
def ipv4? (cs : List Char) : Option Nat := do
  let numbers ← (dottedParts cs).mapM ipv4Number?
  let last ← numbers.getLast?
  let before := numbers.dropLast
  if 3 < before.length || before.any (255 < ·) || Nat.pow 256 (4 - before.length) ≤ last then none
  let placed := before.zipIdx.map fun (n, i) => n * Nat.pow 256 (3 - i)
  return placed.foldl (· + ·) last

/-- A number from 0 to 255 in decimal without a leading zero. -/
def byte? (cs : List Char) : Option Nat :=
  match cs with
  | [] => none
  | '0' :: _ :: _ => none
  | cs => do
    let n ← readNumber? 10 cs
    if n ≤ 255 then return n else none

/-- The pieces of a row of hexadecimal numbers between colons; the last one may be a dotted
number, which counts as two pieces, where `dotted` allows it. -/
def ipv6Pieces? (dotted : Bool) : List (List Char) → Option (List Nat)
  | [] => some []
  | [last] =>
    if dotted && last.contains '.' then do
      let [a, b, c, d] ← (last.splitOn '.').mapM byte? | none
      return [a * 256 + b, c * 256 + d]
    else (piece? last).map ([·])
  | first :: rest => do
    let n ← piece? first
    let ns ← ipv6Pieces? dotted rest
    return n :: ns
where
  piece? (cs : List Char) : Option Nat :=
    if cs.isEmpty || 4 < cs.length then none else readNumber? 16 cs

/-- What stands before and after the first two colons in a row. -/
def splitColons? : List Char → Option (List Char × List Char)
  | [] => none
  | ':' :: ':' :: rest => some ([], rest)
  | c :: cs => (splitColons? cs).map fun (before, after) => (c :: before, after)

/-- The eight pieces of an address in colons; two colons in a row stand for as many zeros as are
missing. -/
def ipv6? (cs : List Char) : Option (List Nat) :=
  let row (dotted : Bool) (part : List Char) : Option (List Nat) :=
    if part.isEmpty then some [] else ipv6Pieces? dotted (part.splitOn ':')
  match splitColons? cs with
  | some (left, right) => do
    let a ← row false left
    let b ← row true right
    if 7 < a.length + b.length then none
    else return a ++ List.replicate (8 - a.length - b.length) 0 ++ b
  | none => do
    let pieces ← row true cs
    if pieces.length = 8 then return pieces else none

def zeroRun (pieces : List Nat) : Nat := (pieces.takeWhile (· == 0)).length

/-- The first of the longest rows of zeros: where it begins, and its length. -/
def longestZeros (pieces : List Nat) : Nat × Nat :=
  (List.range pieces.length).foldl (fun best i =>
    let run := zeroRun (pieces.drop i)
    if best.2 < run then (i, run) else best) (0, 0)

def hexText (n : Nat) : String := String.ofList (Nat.toDigits 16 n)

/-- An address in colons; its longest row of at least two zeros is left out. -/
def ipv6Text (pieces : List Nat) : String :=
  let row (ps : List Nat) := Text.join ":" (ps.map hexText)
  let (start, length) := longestZeros pieces
  if length < 2 then row pieces
  else row (pieces.take start) ++ "::" ++ row (pieces.drop (start + length))

namespace Host

def text : Host → String
  | .domain name => name
  | .ipv4 n =>
    Text.join "." ([n / 16777216, n / 65536 % 256, n / 256 % 256, n % 256].map toString)
  | .ipv6 pieces => "[" ++ ipv6Text pieces ++ "]"

/-- An address in square brackets, none where the text begins with no bracket. -/
def bracketed? (cs : List Char) : Option (Except Error Host) :=
  match cs with
  | '[' :: inner =>
    some (if inner.getLast? = some ']' then
      match ipv6? inner.dropLast with
      | some pieces => .ok (.ipv6 pieces)
      | none => .error .ipv6
    else .error .ipv6)
  | _ => none

/-- The host of an address with a special scheme. -/
def parse (cs : List Char) : Except Error Host :=
  match bracketed? cs with
  | some r => r
  | none =>
    match (textOfBytes? (decodeBytes cs)).bind Domain.toAscii? with
    | none => .error .domain
    | some name =>
      if name.isEmpty then .error .emptyHost
      else if endsInNumber name then
        match ipv4? name with
        | some n => .ok (.ipv4 n)
        | none => .error .ipv4
      else .ok (.domain (String.ofList name))

/-- The host of an address with any other scheme; it is not looked into. -/
def parseOpaque (cs : List Char) : Except Error Host :=
  match bracketed? cs with
  | some r => r
  | none =>
    if cs.any ("\x00\t\n\r #/:<>?@[\\]^|".toList.contains ·) then .error .domainCharacter
    else .ok (.domain (String.ofList (encode isControlOrForeign cs)))

end Host

end Harvest.Url
