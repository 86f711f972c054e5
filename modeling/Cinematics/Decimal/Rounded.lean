import Cinematics.Decimal.Double

/-!
# Rounding to given places and digits

The exact binary value of a double, rounded to a fixed number of places after the point or to a
fixed number of significant digits.  A tie goes to the even digit.
-/

namespace Cinematics.Numeral

/-- The value `± mantissa · 2 ^ exponent` with `places` digits after the point. -/
def toPlaces (places : Nat) (negative : Bool) (mantissa : Nat) (exponent : Int) : Numeral :=
  let num := mantissa * Decimal.power 2 exponent
  let den := Decimal.power 2 (-exponent)
  ⟨negative, Decimal.roundDiv (num * Decimal.unit places) den, places, none⟩

/-- The value `± mantissa · 2 ^ exponent`, at least one in magnitude, with `count` significant
digits: as many places as its whole part leaves room for, or a multiple of a power of ten. -/
def toDigits (count : Nat) (negative : Bool) (mantissa : Nat) (exponent : Int) : Numeral :=
  let num := mantissa * Decimal.power 2 exponent
  let den := Decimal.power 2 (-exponent)
  let whole := (Decimal.digits (num / den) []).length
  if whole ≤ count then toPlaces (count - whole) negative mantissa exponent
  else
    let unit := Decimal.unit (whole - count)
    ⟨negative, Decimal.roundDiv num (den * unit) * unit, 0, none⟩

end Cinematics.Numeral
