import Cinematics.Vec

/-!
# Boxes

A box with its sides along the axes surrounds the subject.  Its center is kept beside its corners,
since the middle of interest need not be the middle of the box.
-/

namespace Cinematics

/-- A box with its sides along the axes. -/
@[ext] structure Box (α : Type) where
  /-- The corner with the smallest coordinates. -/
  low : Vec α
  /-- The corner with the largest coordinates. -/
  high : Vec α
  /-- The center of the subject. -/
  center : Vec α
  deriving DecidableEq, Repr

namespace Box

variable {α : Type} [Scalar α]

/-- The box between two opposite corners, in whatever order they are given. -/
def ofCorners (a b : Vec α) : Box α :=
  let low := a.inf b
  let high := a.sup b
  ⟨low, high, (low + high) * (0.5 : α)⟩

/-- The extent along each axis. -/
def size (b : Box α) : Vec α := b.high - b.low

/-- The length of a diagonal. -/
def diagonal (b : Box α) : α := b.size.norm

/-- The largest extent. -/
def maxExtent (b : Box α) : α := b.size.maxCoord

/-- The box moved by a vector. -/
def translate (b : Box α) (v : Vec α) : Box α :=
  ⟨b.low + v, b.high + v, b.center + v⟩

/-- The box moved upwards. -/
def lift (b : Box α) (a : α) : Box α := b.translate (Vec.height a)

/-- Whether a point lies inside, the surface left out. -/
def containsStrictly (b : Box α) (p : Vec α) : Bool :=
  Axis.all.all fun i => b.low.coord i < p.coord i && p.coord i < b.high.coord i

/-- Whether a point lies inside or on the surface. -/
def contains (b : Box α) (p : Vec α) : Bool :=
  Axis.all.all fun i => b.low.coord i ≤ p.coord i && p.coord i ≤ b.high.coord i

end Box

end Cinematics
