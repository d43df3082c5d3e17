import Harvest.Json.Reader

/-!
Typed contents of JSON values.

A record is given as an object or as an array of its fields in order. Fields that the record does
not know are passed over; one that it knows may stand only once. Fields at the end of an array, and
any field of an object, may be missing where they have a default.
-/

namespace Harvest.Json

open Harvest.Text

def natOf (ds : List Char) : Nat := ds.foldl (fun acc c => acc * 10 + (c.toNat - 48)) 0

/-- The digits that fit into 64 bits, taken from the left, and how many are left over. -/
def fitDigits (acc : Nat) : List Char → Nat × List Char
  | [] => (acc, [])
  | c :: cs =>
    let next := acc * 10 + (c.toNat - 48)
    if next < 0x10000000000000000 then fitDigits next cs else (acc, c :: cs)

/-- A significand times a power of ten, rounded at each step; none where that is no finite number.
Exponents below -308 are reached in steps. -/
def scaled? (fuel : Nat) (f : Float) (exponent : Int) : Option Float :=
  if -308 ≤ exponent && exponent ≤ 308 then
    let power := Float.ofScientific 1 false exponent.natAbs
    if 0 ≤ exponent then
      let product := f * power
      if product.isInf then none else some product
    else some (f / power)
  else if f == 0 then some f
  else if 0 ≤ exponent then none
  else
    match fuel with
    | 0 => some 0
    | fuel + 1 => scaled? fuel (f / Float.ofScientific 1 false 308) (exponent + 308)

/-- The double that a number is read as: digits that do not fit into 64 bits count for the
magnitude only. -/
def JsonNumber.float? (n : JsonNumber) : Option Float := do
  let (significand, unread) := fitDigits 0 n.whole
  let places := n.places.getD []
  let (significand, left) := fitDigits significand places
  let shift : Int := unread.length - ((places.length - left.length : Nat) : Int)
  let (minus, expDigits) := n.exponent.getD (false, [])
  let exponent := natOf expDigits
  let magnitude ←
    if 0x80000000 ≤ exponent then
      if significand ≠ 0 && !minus then none else some 0.0
    else
      let total := if minus then shift - exponent else shift + exponent
      scaled? 4 significand.toUInt64.toFloat total
  return if n.negative then -magnitude else magnitude

/-- The whole number that a number is: it has no point and no exponent, fits into 64 bits, and is no
negative zero. -/
def JsonNumber.int? (n : JsonNumber) : Option Int :=
  if n.places.isSome || n.exponent.isSome then none
  else
    let magnitude := natOf n.whole
    if n.negative then
      if magnitude = 0 || 0x8000000000000000 < magnitude then none else some (-(magnitude : Int))
    else if magnitude < 0x10000000000000000 then some magnitude
    else none

/-- A whole number within bounds. -/
def intWithin? (least most : Int) : Json → Option Int
  | .number n => (JsonNumber.int? n).filter fun i => least ≤ i && i ≤ most
  | _ => none

/-- A whole number of so many bits without a sign. -/
def natBits? (bits : Nat) (j : Json) : Option Nat :=
  (intWithin? 0 (Nat.pow 2 bits - 1 : Nat) j).map Int.toNat

def float? : Json → Option Float
  | .number n =>
    match JsonNumber.int? n with
    | some i =>
      let magnitude := i.natAbs.toUInt64.toFloat
      some (if i < 0 then -magnitude else magnitude)
    | none => JsonNumber.float? n
  | _ => none

def string? : Json → Option String
  | .string s => some s
  | _ => none

def bool? : Json → Option Bool
  | .bool b => some b
  | _ => none

/-- A value that may be null. -/
def nullable? {α : Type} (decode : Json → Option α) : Json → Option (Option α)
  | .null => some none
  | j => (decode j).map some

/-- One of several names, given alone or as the name of a field that is null. -/
def named? {α : Type} (names : List (String × α)) : Json → Option α
  | .string s => names.lookup s
  | .object [(s, .null)] => names.lookup s
  | _ => none

/-- The texts of an object by their names; of fields with the same name the last one counts. -/
def texts? : Json → Option (List (String × String))
  | .object fields => fields.mapM fun (key, value) => (string? value).map (key, ·)
  | _ => none

/-- The fields of a record with the given field names, by name. -/
def record? (names : List String) : Json → Option (List (String × Json))
  | .object fields =>
    let known := fields.filter fun f => names.contains f.1
    if (known.map (·.1)).eraseDups.length = known.length then some known else none
  | .array members =>
    if members.length ≤ names.length then some (names.zip members) else none
  | _ => none

/-- A field that must be there. -/
def required? {α : Type} (fields : List (String × Json)) (name : String)
    (decode : Json → Option α) : Option α :=
  (fields.lookup name).bind decode

/-- A field with a default. -/
def optional? {α : Type} (fields : List (String × Json)) (name : String) (default : α)
    (decode : Json → Option α) : Option α :=
  match fields.lookup name with
  | some j => decode j
  | none => some default

end Harvest.Json
