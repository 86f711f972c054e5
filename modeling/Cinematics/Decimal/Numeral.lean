/-!
# Decimal numerals

A `Numeral` is a number the way it stands in a text: a sign, digits with a point somewhere among
them, and perhaps a power of ten.  Keeping the digits apart from the value lets a reader take a
numeral without deciding how it rounds, and lets a writer print one without deciding how many
digits it deserves.  `Numeral.render` writes a numeral with exactly the digits it has.
-/

namespace Cinematics

/-- A decimal number as it is written: `mantissa` holds all its digits, the last `places` of them
stand after the point, and `exponent` is the power of ten that follows, if one does. -/
structure Numeral where
  /-- Whether a minus sign leads. -/
  negative : Bool
  /-- The digits before and after the point, read as one number. -/
  mantissa : Nat
  /-- How many of the digits stand after the point. -/
  places : Nat
  /-- The written power of ten. -/
  exponent : Option Int
  deriving DecidableEq, Repr

namespace Decimal

/-- The digit character of a number below ten. -/
def digitChar (d : Nat) : Char := Char.ofNat ('0'.toNat + d)

/-- The value of a digit character. -/
def digitValue (c : Char) : Nat := c.toNat - '0'.toNat

/-- The number that a run of digits denotes. -/
def ofDigits (digits : List Char) : Nat :=
  digits.foldl (fun n c => 10 * n + digitValue c) 0

/-- The decimal digits of `n`, without leading zeros, in front of `tail`. -/
def digits (n : Nat) (tail : List Char) : List Char :=
  if n < 10 then digitChar n :: tail else digits (n / 10) (digitChar (n % 10) :: tail)
termination_by n
decreasing_by omega

/-- The last `count` decimal digits of `n`, zeros included, in front of `tail`. -/
def lastDigits : (count n : Nat) → (tail : List Char) → List Char
  | 0, _, tail => tail
  | count + 1, n, tail => lastDigits count (n / 10) (digitChar (n % 10) :: tail)

/-- One followed by `count` zeros. -/
def unit (count : Nat) : Nat := Nat.pow 10 count

end Decimal

namespace Numeral

/-- A whole number, written without point or exponent. -/
def ofNat (n : Nat) : Numeral := ⟨false, n, 0, none⟩

/-- The natural number that an unsigned numeral without point and exponent denotes. -/
def natural? (n : Numeral) : Option Nat :=
  if !n.negative && n.places = 0 && n.exponent.isNone then some n.mantissa else none

/-- The power of ten in front of `tail`. -/
def renderExponent (exponent : Option Int) (tail : List Char) : List Char :=
  match exponent with
  | none => tail
  | some e =>
    'e' :: if e < 0 then '-' :: Decimal.digits e.natAbs tail else Decimal.digits e.natAbs tail

/-- The text of a numeral in front of `tail`. -/
def render (n : Numeral) (tail : List Char) : List Char :=
  let unit := Decimal.unit n.places
  let power := renderExponent n.exponent tail
  let fraction :=
    if n.places = 0 then power else '.' :: Decimal.lastDigits n.places (n.mantissa % unit) power
  let unsigned := Decimal.digits (n.mantissa / unit) fraction
  if n.negative then '-' :: unsigned else unsigned

/-- The text of a numeral. -/
def text (n : Numeral) : String := String.ofList (n.render [])

end Numeral

end Cinematics
