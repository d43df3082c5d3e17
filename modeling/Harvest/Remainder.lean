import Harvest.Decimal

/-!
The remainder of a division of doubles that truncates toward zero.

Both magnitudes are whole multiples of one power of two, so the remainder is exact: it is the
remainder of two natural numbers, and has the sign of the dividend.
-/

namespace Harvest

/-- The remainder of two finite magnitudes as a multiple of a power of two. -/
def Binary.remainder (a b : Binary) : Nat × Int :=
  let e := min a.exponent b.exponent
  let grid (x : Binary) : Nat := x.mantissa * Nat.pow 2 (x.exponent - e).toNat
  (grid a % grid b, e)

/-- The remainder of `x` by `y`; a NaN for a zero or unordered divisor and for an infinite
dividend. -/
def remainder (x y : Float) : Float :=
  match Binary.ofFloat? x, Binary.ofFloat? y with
  | some a, some b =>
    if b.mantissa = 0 then 0.0 / 0.0
    else
      let (m, e) := a.remainder b
      let magnitude := (Float.ofNat m).scaleB e
      if a.negative then -magnitude else magnitude
  | some _, none => if y.isNaN then y else x
  | none, _ => 0.0 / 0.0

end Harvest
