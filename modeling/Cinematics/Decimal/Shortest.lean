import Cinematics.Decimal.Double

/-!
# The fewest digits that read back

Every finite double is the nearest double to a whole interval of reals, and any decimal in that
interval reads back as the double.  `Rounding.shortest` finds the coarsest decimal grid with a point
in the interval and takes the point nearest to the double itself; an exact tie goes up.  Grids are
tried from coarse to fine, and only the two neighbours of the double on each grid need a look.
-/

namespace Cinematics

/-- The reals whose nearest double is a given positive one, over a common denominator. -/
structure Rounding where
  /-- Numerator of the lower end. -/
  low : Nat
  /-- Numerator of the double itself. -/
  value : Nat
  /-- Numerator of the upper end. -/
  high : Nat
  /-- The common denominator. -/
  den : Nat
  /-- Whether the ends round to the double too. -/
  closed : Bool

namespace Rounding

/-- The interval of `mantissa · 2 ^ exponent`.  It reaches half a step to both sides, except that
below a power of two the steps are half as long; its ends belong to an even mantissa. -/
def ofDouble (mantissa : Nat) (exponent : Int) : Rounding :=
  let unit := Decimal.power 2 exponent
  let narrow := mantissa = Double.fractionCount ∧ Double.lowestExponent < exponent
  { low := (4 * mantissa - if narrow then 1 else 2) * unit
    value := 4 * mantissa * unit
    high := (4 * mantissa + 2) * unit
    den := 4 * Decimal.power 2 (-exponent)
    closed := mantissa % 2 = 0 }

/-- Whether `num / (den · scale)` lies in the interval. -/
def covers (r : Rounding) (scale num : Nat) : Bool :=
  if r.closed then r.low * scale ≤ num && num ≤ r.high * scale
  else r.low * scale < num && num < r.high * scale

/-- The multiple of `10 ^ p` in the interval that is nearest to the double, if there is one. -/
def onGrid? (r : Rounding) (p : Int) : Option Nat :=
  let scale := Decimal.power 10 (-p)
  let step := r.den * Decimal.power 10 p
  let exact := r.value * scale
  let below := exact / step
  let above := below + 1
  match r.covers scale (below * step), r.covers scale (above * step) with
  | true, true => some (if exact - below * step < above * step - exact then below else above)
  | true, false => some below
  | false, true => some above
  | false, false => none

/-- The point on the coarsest grid from `10 ^ p` down that has one, as a multiple and its power of
ten.  The value's own digits at the last grid stand in should none of the `grids` have a point. -/
def search (r : Rounding) : (grids : Nat) → (p : Int) → Nat × Int
  | 0, p => (r.value * Decimal.power 10 (-p) / (r.den * Decimal.power 10 p), p)
  | grids + 1, p =>
    match r.onGrid? p with
    | some c => (c, p)
    | none => r.search grids (p - 1)

/-- The fewest digits that read back as `mantissa · 2 ^ exponent`, and their power of ten.

The first grid is above the value: `mantissa · 2 ^ exponent` is below `2 ^ b` with `b` the sum of
the exponent and the bits of the mantissa, and `30103 / 100000` is just above the logarithm of two.
Seventeen digits always suffice, so 24 grids do. -/
def shortest (mantissa : Nat) (exponent : Int) : Nat × Int :=
  let b : Int := mantissa.log2 + 1 + exponent
  (ofDouble mantissa exponent).search 24 (b * 30103 / 100000 + 2)

end Rounding

namespace Numeral

/-- The numeral of `± multiple · 10 ^ p`, without exponent. -/
def ofScaled (negative : Bool) (multiple : Nat) (p : Int) : Numeral :=
  ⟨negative, multiple * Decimal.power 10 p, (-p).toNat, none⟩

/-- The shortest numeral without exponent that reads back as `± mantissa · 2 ^ exponent`. -/
def shortest (negative : Bool) (mantissa : Nat) (exponent : Int) : Numeral :=
  if mantissa = 0 then ⟨negative, 0, 0, none⟩
  else
    let (multiple, p) := Rounding.shortest mantissa exponent
    ofScaled negative multiple p

/-- The shortest numeral of a double, if it is finite. -/
def ofFloat? (x : Float) : Option Numeral :=
  match Double.ofFloat x with
  | .finite negative mantissa exponent => some (shortest negative mantissa exponent)
  | _ => none

end Numeral

end Cinematics
