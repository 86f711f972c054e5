import Cinematics.Vec

/-!
# The camera's own axes

`Frame.ofView` recovers forward, right and up from where a camera stands and what it looks at.
Every move takes its axes from here, so that all agree on what happens when the view is vertical:
the right axis is then the first coordinate axis.
-/

namespace Cinematics

/-- The axes of a camera, each of length one. -/
structure Frame (α : Type) where
  /-- Towards the target. -/
  forward : Vec α
  /-- To the right of the picture. -/
  right : Vec α
  /-- To the top of the picture. -/
  up : Vec α
  deriving DecidableEq, Repr

namespace Frame

variable {α : Type} [Scalar α]

/-- The horizontal axis to the right of a direction. -/
def rightOf (forward : Vec α) (eps : α) : Vec α :=
  let right := forward.cross Vec.up
  if right.norm < eps then Vec.unit .x else right.normalize

/-- The axes of a camera at `position` that looks at `target`; none when the two are closer than
`eps`. -/
def ofView (position target : Vec α) (eps : α) : Option (Frame α) :=
  let view := target - position
  let length := view.norm
  if length < eps then none
  else
    let forward := view / length
    let right := rightOf forward eps
    some ⟨forward, right, (right.cross forward).normalize⟩

end Frame

end Cinematics
