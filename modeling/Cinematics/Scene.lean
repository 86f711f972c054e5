import Cinematics.Box
import Cinematics.Pose

/-!
# The scene and what surrounds it

A `Scene` describes the subject: its box and its named features.  `Surroundings` come from the user:
the `Envelope` that the camera has to keep to, and the lift, by which the subject is shown higher
than its box says.
-/

namespace Cinematics

/-- A named point on or near the subject. -/
structure Feature (α : Type) where
  /-- The name it is known by. -/
  id : String
  /-- A description, which serves as a second name. -/
  description : String
  /-- Where it is. -/
  position : Vec α
  deriving DecidableEq, Repr

/-- The subject. -/
structure Scene (α : Type) where
  /-- The box around it, if known. -/
  bounds : Option (Box α)
  /-- Its named points. -/
  features : List (Feature α)
  deriving DecidableEq, Repr

/-- Limits on the place of the camera. -/
structure Envelope (α : Type) where
  /-- The least distance from the anchor. -/
  minDistance : α
  /-- The greatest distance from the anchor. -/
  maxDistance : α
  /-- The least height. -/
  minHeight : α
  /-- The greatest height. -/
  maxHeight : α
  deriving DecidableEq, Repr

/-- What the user adds to a scene. -/
structure Surroundings (α : Type) where
  /-- Limits on the place of the camera, if there are any. -/
  envelope : Option (Envelope α)
  /-- How much higher the subject is than its box. -/
  lift : α
  deriving DecidableEq, Repr

variable {α : Type} [Scalar α]

namespace Scene

/-- A scene of which nothing is known. -/
def empty : Scene α := ⟨none, []⟩

/-- The box at the height where the subject is shown. -/
def liftedBounds (scene : Scene α) (around : Surroundings α) : Option (Box α) :=
  scene.bounds.map (·.lift around.lift)

end Scene

namespace Surroundings

/-- No limits and no lift. -/
def free : Surroundings α := ⟨none, 0⟩

end Surroundings

namespace Envelope

/-- Whether a position keeps to the limits, give or take `tolerance`. -/
def admits (e : Envelope α) (position anchor : Vec α) (tolerance : α) : Bool :=
  let distance := (position - anchor).norm
  e.minHeight - tolerance ≤ position.y && position.y ≤ e.maxHeight + tolerance
    && e.minDistance - tolerance ≤ distance && distance ≤ e.maxDistance + tolerance

end Envelope

end Cinematics
