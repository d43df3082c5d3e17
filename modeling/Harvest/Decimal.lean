/-!
Decimal texts of binary floating point numbers.

A finite double is written with the fewest digits that read back as the same double, the nearest
of those where several do, and always positionally: no exponent, and no point after a whole number.
Reading rounds to the nearest double.
-/

namespace Harvest

/-- A double that is neither infinite nor a NaN: its sign and the magnitude
`mantissa * 2 ^ exponent`. -/
structure Binary where
  negative : Bool
  mantissa : Nat
  exponent : Int
  /-- Whether the next smaller magnitude is only half as far away as the next larger one. -/
  narrowBelow : Bool
  deriving Repr, DecidableEq

/-- The parts of a finite double, none of an infinity or a NaN. -/
def Binary.ofFloat? (x : Float) : Option Binary :=
  let bits : Nat := x.toBits.toNat
  let negative := bits / 0x8000000000000000 == 1
  let biased : Nat := bits / 0x10000000000000 % 2048
  let fraction : Nat := bits % 0x10000000000000
  if biased = 2047 then none
  else if biased = 0 then some ⟨negative, fraction, -1074, false⟩
  else
    some ⟨negative, 0x10000000000000 + fraction, (biased : Int) - 1075,
      fraction == 0 && biased > 1⟩

/-- A decimal number `digits * 10 ^ exponent`. -/
structure Decimal where
  digits : Nat
  exponent : Int
  deriving Repr, DecidableEq

namespace Decimal

/-- The fraction `num / den` scaled by `10 ^ (-exponent)`, again as a fraction. -/
def scale (num den : Nat) (exponent : Int) : Nat × Nat :=
  if 0 ≤ exponent then (num, den * Nat.pow 10 exponent.toNat)
  else (num * Nat.pow 10 (-exponent).toNat, den)

/-- The exponent of the leading decimal digit of `num / den`, searched downward from `e`. -/
def leading (num den : Nat) : Nat → Int → Int
  | 0, e => e
  | fuel + 1, e =>
    let (n, d) := scale num den e
    if d ≤ n then e else leading num den fuel (e - 1)

/-- The decimal on the grid of `10 ^ exponent` that lies in the interval around `num / den` and
is nearest to it, the larger one at a tie; none when no point of the grid lies in the interval.
All three numbers are numerators over the common denominator `den`. -/
def onGrid? (num lo hi den : Nat) (closed : Bool) (exponent : Int) : Option Decimal :=
  let (n, d) := scale num den exponent
  let (l, _) := scale lo den exponent
  let (h, _) := scale hi den exponent
  let below := n / d
  let above := below + 1
  let belowFits := if closed then l ≤ below * d else l < below * d
  let aboveFits := if closed then above * d ≤ h else above * d < h
  if belowFits && aboveFits then
    some (if n - below * d < above * d - n then ⟨below, exponent⟩ else ⟨above, exponent⟩)
  else if belowFits then some ⟨below, exponent⟩
  else if aboveFits then some ⟨above, exponent⟩
  else none

/-- The first hit on the grids from `exponent` downward. -/
def firstHit (num lo hi den : Nat) (closed : Bool) : Nat → Int → Decimal
  | 0, exponent => ⟨0, exponent⟩
  | fuel + 1, exponent =>
    match onGrid? num lo hi den closed exponent with
    | some d => d
    | none => firstHit num lo hi den closed fuel (exponent - 1)

/-- The shortest decimal that rounds to the magnitude of `b`, nearest to it. -/
def shortest (b : Binary) : Decimal :=
  if b.mantissa = 0 then ⟨0, 0⟩ else
  let e := b.exponent - 2
  let (factor, den) := if 0 ≤ e then (Nat.pow 2 e.toNat, 1) else (1, Nat.pow 2 (-e).toNat)
  let num := 4 * b.mantissa * factor
  let lo := (4 * b.mantissa - (if b.narrowBelow then 1 else 2)) * factor
  let hi := (4 * b.mantissa + 2) * factor
  -- one grid above the leading digit, where the next power of ten may already read back
  firstHit num lo hi den (b.mantissa % 2 == 0) 19 (leading num den 640 310 + 1)

/-- The decimal written without an exponent. -/
def positional (d : Decimal) : String :=
  let ds := Nat.toDigits 10 d.digits
  if 0 ≤ d.exponent then
    String.ofList (if d.digits = 0 then ['0'] else ds ++ List.replicate d.exponent.toNat '0')
  else
    let places := (-d.exponent).toNat
    if places < ds.length then
      String.ofList (ds.take (ds.length - places) ++ '.' :: ds.drop (ds.length - places))
    else String.ofList ('0' :: '.' :: List.replicate (places - ds.length) '0' ++ ds)

/-- The text of a double: `NaN`, `inf` and `-inf`, else a sign for a negative number or a negative
zero and the shortest decimal that reads back. -/
def ofFloat (x : Float) : String :=
  match Binary.ofFloat? x with
  | some b => (if b.negative then "-" else "") ++ (shortest b).positional
  | none => if x.isNaN then "NaN" else if x < 0 then "-inf" else "inf"

def digitsValue (cs : List Char) : Nat :=
  cs.foldl (fun acc c => acc * 10 + (c.toNat - 48)) 0

/-- The double nearest to digits with at most one point among them. -/
def readDigits (cs : List Char) : Float :=
  let whole := cs.takeWhile (· != '.')
  let places := (cs.dropWhile (· != '.')).drop 1
  Float.ofScientific (digitsValue (whole ++ places)) true places.length

end Decimal

end Harvest
