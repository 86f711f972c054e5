import Cinematics.Decimal.Quick
import Cinematics.Decimal.Rounded
import Cinematics.Decimal.Scan
import Cinematics.Decimal.Shortest
import Cinematics.Scalar

/-!
# Scalars in text

Two classes tie scalars to their texts.  `Numeric` reads numerals and chooses the digits that a
value is written with, which is what documents need.  `Spelled` gives the words of a value inside a
message.  Both are apart from `Scalar`: geometry knows nothing of digits.
-/

namespace Cinematics

/-- Scalars that numbers in documents and in texts stand for, and that documents can hold. -/
class Numeric (α : Type) where
  /-- The scalar that a numeral in a document stands for; it may be infinite. -/
  ofNumeral : Numeral → α
  /-- The scalar that a text in the free form denotes. -/
  ofLiteral : Literal → α
  /-- The digits of a value, if it is finite. -/
  numeral? : α → Option Numeral

/-- Scalars that can be named in a message. -/
class Spelled (α : Type) where
  /-- The shortest exact spelling. -/
  spell : α → String
  /-- The spelling with a fixed number of places after the point. -/
  spellPlaces : (places : Nat) → α → String

namespace Numeric

variable {α : Type} [Scalar α] [Numeric α]

/-- The scalar that a numeral in a document stands for, unless it is too large. -/
def read? (n : Numeral) : Option α :=
  let x : α := ofNumeral n
  if Scalar.isFinite x then some x else none

end Numeric

/-- Doubles as scalars. -/
instance : Scalar Float where
  abs := Float.abs
  sqrt := Float.sqrt
  sin := Float.sin
  cos := Float.cos
  asin := Float.asin
  pi := 3.141592653589793
  isFinite := Float.isFinite
  ceilNat x := x.ceil.toUInt64.toNat
  ofNat := Float.ofNat

/-- The double that a text in the free form denotes, the nearest one to a decimal number. -/
def Double.ofLiteral : Literal → Float
  | .numeral n => ofNumeral n
  | .infinite negative => ofMagnitudeBits negative infinityBits
  | .notANumber => 0.0 / 0.0

instance : Numeric Float where
  ofNumeral := Double.ofNumeralQuickly
  ofLiteral := Double.ofLiteral
  numeral? := Numeral.ofFloat?

namespace Double

/-- The spelling of a double whose finite values are written by `digits`. -/
def spellWith (digits : (negative : Bool) → (mantissa : Nat) → (exponent : Int) → Numeral)
    (x : Float) : String :=
  match ofFloat x with
  | .notANumber => "NaN"
  | .infinite negative => if negative then "-inf" else "inf"
  | .finite negative mantissa exponent => (digits negative mantissa exponent).text

end Double

instance : Spelled Float where
  spell := Double.spellWith Numeral.shortest
  spellPlaces places := Double.spellWith (Numeral.toPlaces places)

end Cinematics
