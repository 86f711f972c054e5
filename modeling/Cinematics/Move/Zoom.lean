import Cinematics.Move.Stage

/-!
# Zoom

A zoom moves the camera along the line to its target so that the distance is multiplied by a factor.
-/

namespace Cinematics

variable {α : Type} [Scalar α]

namespace Zoom

/-- Outward makes the distance larger. -/
def heading : Heading := ⟨[.outward], [.inward]⟩

/-- An explicit factor as a direction wants it: inward never goes away, outward never comes
closer. -/
def orient (direction : Option Direction) (factor : α) : α :=
  match direction with
  | some .inward => Scalar.min factor (1 / factor)
  | some .outward => Scalar.max factor (1 / factor)
  | _ => factor

/-- The factor on the distance: explicit, else from a descriptor, else the one that leads to a
framing distance. -/
def factorFor (zoom : Zoom α) (stage : Stage α) (current : α) (direction : Option Direction) :
    Outcome α α :=
  match zoom.factor with
  | some factor => (positive "factor" factor).map (orient direction)
  | none => do
    match ← amount? zoom.factorDescriptor "factor_descriptor" with
    | some amount =>
      let direction ← required "direction" direction
      .ok (amount.factor (some direction) current stage.around)
    | none =>
      let amount ← amount? zoom.targetDistanceDescriptor "target_distance_descriptor"
      let amount ← required "factor" amount
      .ok (amount.framing stage.scene / current)

/-- Carries out a zoom.  A camera on its target stays there. -/
def perform (zoom : Zoom α) (stage : Stage α) (pose : Pose α) : Outcome α (Take α) :=
  let current := pose.distance
  if current < stage.settings.epsilon then .ok (stage.still pose)
  else do
    let direction ← heading.direction? zoom.direction
    let factor ← zoom.factorFor stage current direction
    let candidate := pose.target + (pose.position - pose.target) * factor
    let position := stage.place pose.position candidate pose.target
    .ok (stage.reach ⟨position, pose.target⟩ zoom.easing zoom.speed)

end Zoom

end Cinematics
