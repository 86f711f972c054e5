import Cinematics.Frame
import Cinematics.Move.Stage

/-!
# Dolly

A dolly moves the camera along its line of sight and leaves the target where it is.  It stops short
of the target by the stand-off of the settings.
-/

namespace Cinematics

variable {α : Type} [Scalar α]

namespace Dolly

/-- Inward is forward. -/
def heading : Heading := ⟨[.inward], [.outward]⟩

/-- The signed way forward: a distance in a direction, else the way to come level with a
destination, else the way to a framing distance. -/
def travelFor (dolly : Dolly α) (stage : Stage α) (pose : Pose α) (forward : Vec α)
    (direction : Option Direction) : Outcome α α := do
  match ← travel? .dolly stage.scene pose dolly.distance dolly.distanceDescriptor with
  | some travel =>
    let direction ← required "direction" direction
    .ok (heading.sign direction * travel)
  | none =>
    match dolly.destinationTarget with
    | some name =>
      let destination ← stage.locate pose name
      .ok ((destination - pose.position).dot forward)
    | none =>
      let amount ← amount? dolly.targetDistanceDescriptor "target_distance_descriptor"
      let amount ← required "distance" amount
      .ok (pose.distance - amount.framing stage.scene)

/-- The way forward, shortened so that the camera keeps its stand-off. -/
def cap (stage : Stage α) (current travel : α) : α :=
  Scalar.min travel (Scalar.max (current - stage.settings.standoff) 0)

/-- Carries out a dolly.  A camera on its target stays there. -/
def perform (dolly : Dolly α) (stage : Stage α) (pose : Pose α) : Outcome α (Take α) :=
  match Frame.ofView pose.position pose.target stage.settings.epsilon with
  | none => .ok (stage.still pose)
  | some frame => do
    let direction ← heading.direction? dolly.direction
    let travel ← dolly.travelFor stage pose frame.forward direction
    let travel := cap stage pose.distance travel
    if Scalar.abs travel < stage.settings.epsilon then .ok (stage.still pose)
    else
      let candidate := pose.position + frame.forward * travel
      let position := stage.place pose.position candidate pose.target
      .ok (stage.reach ⟨position, pose.target⟩ dolly.easing dolly.speed)

end Dolly

end Cinematics
