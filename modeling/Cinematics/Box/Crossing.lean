import Cinematics.Box

/-!
# Where a ray crosses a box

The parameters at which the ray `origin + t · dir`, `t ≥ 0`, lies in a box form one interval, the
intersection of one interval per axis.  A ray that runs along a face, or beside the box, does not
cross it; a ray without direction never leaves.
-/

namespace Cinematics

/-- An interval of ray parameters. -/
structure Crossing (α : Type) where
  /-- Where the ray enters, or zero when it starts inside. -/
  enter : α
  /-- Where the ray leaves, if it does. -/
  leave : Option α
  deriving DecidableEq, Repr

namespace Crossing

variable {α : Type} [Scalar α]

/-- The whole ray. -/
def whole : Crossing α := ⟨0, none⟩

/-- The part of a crossing between two parameters in either order, if any is left.  Undefined
parameters bound nothing. -/
def narrow? (c : Crossing α) (t₁ t₂ : α) : Option (Crossing α) :=
  let enter := Scalar.max c.enter (Scalar.min t₁ t₂)
  let far := Scalar.max t₁ t₂
  let leave :=
    match c.leave with
    | none => if far ≤ far then some far else none
    | some t => some (Scalar.min t far)
  if leave.any (· < enter) then none else some ⟨enter, leave⟩

/-- Whether a crossing is longer than a touch of length `graze`. -/
def isLongerThan (c : Crossing α) (graze : α) : Bool :=
  match c.leave with
  | none => true
  | some t => graze < t - c.enter

end Crossing

namespace Box

variable {α : Type} [Scalar α]

/-- The part of a crossing within the slab between two faces. -/
def slab? (b : Box α) (origin dir : Vec α) (c : Crossing α) (axis : Axis) : Option (Crossing α) :=
  let o := origin.coord axis
  let d := dir.coord axis
  if Scalar.abs d < 1e-12 then
    if o ≤ b.low.coord axis ∨ b.high.coord axis ≤ o then none else some c
  else c.narrow? ((b.low.coord axis - o) / d) ((b.high.coord axis - o) / d)

/-- The parameters at which a ray lies in the box. -/
def crossing? (b : Box α) (origin dir : Vec α) : Option (Crossing α) :=
  Axis.all.foldlM (b.slab? origin dir) Crossing.whole

end Box

end Cinematics
