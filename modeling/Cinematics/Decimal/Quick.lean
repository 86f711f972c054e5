import Cinematics.Decimal.Double

/-!
# Quick conversion of numerals

Numbers in documents are not rounded from all their digits.  As many leading digits as fit into 64
bits make up a significand, the place of the point and the written exponent make up a power of ten,
and the two are brought together in floating-point arithmetic, which rounds once or more on the way.
For numerals of up to fifteen digits and small exponents the result is the nearest double all the
same.
-/

namespace Cinematics

namespace Decimal

/-- The bound on a significand: it takes up 64 bits. -/
def significandBound : Nat := UInt64.size

/-- Adds digits to a significand while it stays within its bound, and gives the digits that are
left. -/
def appendDigits (significand : Nat) : List Char → Nat × List Char
  | [] => (significand, [])
  | d :: ds =>
    let next := 10 * significand + digitValue d
    if next < significandBound then appendDigits next ds else (significand, d :: ds)

end Decimal

namespace Double

/-- A power of ten that is a finite double. -/
def tenTo (e : Nat) : Float := nearest false (Decimal.unit e) 1

/-- The greatest exponent of `tenTo`. -/
def greatestPower : Nat := 308

/-- The double `f · 10 ^ e`, computed with one multiplication or with as many divisions as it
takes. -/
def scale (f : Float) (e : Int) : Float :=
  if e.natAbs ≤ greatestPower then
    if 0 ≤ e then f * tenTo e.natAbs else f / tenTo e.natAbs
  else if f == 0 then f
  else if 0 ≤ e then ofMagnitudeBits false infinityBits
  else scale (f / tenTo greatestPower) (e + greatestPower)
termination_by (-e).toNat
decreasing_by
  simp only [greatestPower] at *
  omega

/-- The double that a numeral in a document stands for: its significand times its power of ten.
Digits of the whole part that do not fit count as zeros, and those of the fraction do not count. -/
def ofNumeralQuickly (n : Numeral) : Float :=
  let unit := Decimal.unit n.places
  let (whole, left) := Decimal.appendDigits 0 (Decimal.digits (n.mantissa / unit) [])
  let fraction := Decimal.lastDigits n.places (n.mantissa % unit) []
  let (significand, unused) := Decimal.appendDigits whole fraction
  let e : Int := n.exponent.getD 0 + left.length - (n.places - unused.length : Nat)
  let size := scale (nearest false significand 1) e
  if n.negative then -size else size

end Double

end Cinematics
