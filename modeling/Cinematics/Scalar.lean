/-!
# Scalars

All geometry is written once, over any type of scalars.  `Scalar α` asks for the field operations,
an order that can be decided, decimal literals, and the few functions that the geometry of cameras
needs; it asks for no laws, since doubles keep none of them.  The minimum and maximum here ignore an
undefined operand, and `clamp` lets an undefined value through.
-/

namespace Cinematics

/-- Numbers that geometry can be computed with. -/
class Scalar (α : Type) extends Zero α, One α, Add α, Sub α, Mul α, Div α, Neg α, LT α, LE α,
    OfScientific α where
  /-- The strict order can be decided. -/
  [decidableLT : DecidableLT α]
  /-- The order can be decided. -/
  [decidableLE : DecidableLE α]
  /-- The magnitude without its sign. -/
  abs : α → α
  /-- The square root. -/
  sqrt : α → α
  /-- The sine of an angle in radians. -/
  sin : α → α
  /-- The cosine of an angle in radians. -/
  cos : α → α
  /-- The angle in radians with the given sine. -/
  asin : α → α
  /-- Half a turn, in radians. -/
  pi : α
  /-- Whether a value is an ordinary number, neither infinite nor undefined. -/
  isFinite : α → Bool
  /-- The least natural number that is not below a value. -/
  ceilNat : α → Nat
  /-- The scalar of a natural number. -/
  ofNat : Nat → α

attribute [reducible, instance] Scalar.decidableLT Scalar.decidableLE

namespace Scalar

variable {α : Type} [Scalar α]

/-- The smaller of two values; an undefined value gives way to the other. -/
def min (x y : α) : α :=
  if y < x then y else if x ≤ x then x else y

/-- The larger of two values; an undefined value gives way to the other. -/
def max (x y : α) : α :=
  if x < y then y else if x ≤ x then x else y

/-- The value of `[lo, hi]` nearest to `x`. -/
def clamp (x lo hi : α) : α :=
  if x < lo then lo else if hi < x then hi else x

/-- Degrees in radians. -/
def radians (degrees : α) : α :=
  degrees * (pi / 180.0)

/-- The sum of a list, from left to right. -/
def sum (xs : List α) : α :=
  xs.foldl (· + ·) 0

end Scalar

end Cinematics
