import Cinematics.Decimal.Numeral

/-!
# Double-precision numbers, exactly

A finite double is `± mantissa · 2 ^ exponent` with natural `mantissa`, so questions about its
decimal text are questions about natural numbers.  `Double.ofFloat` takes a double apart and
`Double.nearest` builds the double closest to a ratio, a tie going to the even mantissa.  Nothing
here goes through floating-point arithmetic.
-/

namespace Cinematics

namespace Decimal

/-- The numerator of `base ^ e`; its denominator is the numerator of `base ^ (-e)`. -/
def power (base : Nat) (e : Int) : Nat := Nat.pow base e.toNat

/-- The quotient `num / den` rounded to a whole number, a tie going to the even one. -/
def roundDiv (num den : Nat) : Nat :=
  let quotient := num / den
  let twice := 2 * (num % den)
  if twice < den then quotient
  else if den < twice then quotient + 1
  else if quotient % 2 = 0 then quotient
  else quotient + 1

end Decimal

/-- A double-precision number taken apart. -/
inductive Double where
  /-- The undefined value. -/
  | notANumber
  /-- One of the two infinities. -/
  | infinite (negative : Bool)
  /-- The number `± mantissa · 2 ^ exponent`. -/
  | finite (negative : Bool) (mantissa : Nat) (exponent : Int)
  deriving DecidableEq, Repr

namespace Double

/-- The power of two of the last place of the smallest doubles. -/
def lowestExponent : Int := -1074

/-- The bit of the sign, and the number of magnitudes. -/
def signBit : Nat := 0x8000000000000000

/-- The number of fractions, and the mantissa of a power of two. -/
def fractionCount : Nat := 0x10000000000000

/-- The exponent field of numbers that are not finite. -/
def topField : Nat := 2047

/-- The bits of infinity, above those of every finite magnitude. -/
def infinityBits : Nat := topField * fractionCount

/-- Takes a double apart. -/
def ofFloat (x : Float) : Double :=
  let bits := x.toBits.toNat
  let negative := decide (signBit ≤ bits)
  let field : Nat := bits % signBit / fractionCount
  let fraction := bits % fractionCount
  if field = topField then if fraction = 0 then .infinite negative else .notANumber
  else if field = 0 then .finite negative fraction lowestExponent
  else .finite negative (fractionCount + fraction) (lowestExponent + (field - 1 : Nat))

/-- The bits of the double nearest to the positive ratio `num / den`.

The exponent is the least at which the quotient has at most 53 bits.  A mantissa that rounds up to
`2 ^ 53` carries into the exponent field, which is what the bits of the next double are. -/
def nearestBits (num den : Nat) : Nat :=
  let guess : Int := max (num.log2 - den.log2 - 53) lowestExponent
  let scaled (e : Int) : Nat × Nat := (num * Decimal.power 2 (-e), den * Decimal.power 2 e)
  let (n, d) := scaled guess
  let e := if n / d < 2 * fractionCount then guess else guess + 1
  let (n, d) := scaled e
  min ((e - lowestExponent).toNat * fractionCount + Decimal.roundDiv n d) infinityBits

/-- The double of the given sign whose magnitude has the given bits. -/
def ofMagnitudeBits (negative : Bool) (bits : Nat) : Float :=
  Float.ofBits (if negative then signBit + bits else bits).toUInt64

/-- The double nearest to `± num / den`, infinite beyond the largest finite one. -/
def nearest (negative : Bool) (num den : Nat) : Float :=
  ofMagnitudeBits negative (if num = 0 then 0 else nearestBits num den)

/-- The double nearest to a numeral.

Powers of ten beyond the range of doubles are settled before they are computed: with a mantissa of
`b` bits the value lies between `10 ^ p` and `10 ^ (p + b)`. -/
def ofNumeral (n : Numeral) : Float :=
  let p : Int := n.exponent.getD 0 - n.places
  if n.mantissa = 0 then nearest n.negative 0 1
  else if 400 < p then ofMagnitudeBits n.negative infinityBits
  else if p + (n.mantissa.log2 + 1) < -400 then nearest n.negative 0 1
  else nearest n.negative (n.mantissa * Decimal.power 10 p) (Decimal.power 10 (-p))

end Double

end Cinematics
