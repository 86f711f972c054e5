import Cinematics.Frame
import Cinematics.Move.Stage

/-!
# Truck and pedestal

A slide moves the camera and its target by the same vector: to the side for a truck, up or down for
a pedestal.  Only the position is confined; the target follows it, so the view never changes.
-/

namespace Cinematics

variable {α : Type} [Scalar α]

namespace Slide

/-- The signed way along an axis: a distance in a direction, else the way to come level with a
destination. -/
def travelFor (slide : Slide α) (stage : Stage α) (pose : Pose α) (kind : MoveKind)
    (heading : Heading) (axis : Vec α) (direction : Option Direction) :
    Outcome α α := do
  match ← travel? kind stage.scene pose slide.distance slide.distanceDescriptor with
  | some travel =>
    let direction ← required "direction" direction
    .ok (heading.sign direction * travel)
  | none =>
    let name ← required "distance" slide.destinationTarget
    let destination ← stage.locate pose name
    .ok ((destination - pose.position).dot axis)

/-- Where a slide leads before it is confined.  The height is clamped at once: the target will
follow, and distances count from where it will be. -/
def candidate (stage : Stage α) (pose : Pose α) (axis : Vec α) (travel : α) : Vec α :=
  let free := pose.position + axis * travel
  match stage.around.envelope with
  | some e => e.clampHeight free
  | none => free

/-- The pose moved as a whole so that its position is `position`. -/
def carry (pose : Pose α) (position : Vec α) : Pose α :=
  ⟨position, pose.target + (position - pose.position)⟩

/-- Carries out a slide along an axis. -/
def along (slide : Slide α) (stage : Stage α) (pose : Pose α) (kind : MoveKind)
    (heading : Heading) (axis : Vec α) : Outcome α (Take α) := do
  let direction ← heading.direction? slide.direction
  let travel ← slide.travelFor stage pose kind heading axis direction
  if Scalar.abs travel < stage.settings.epsilon then .ok (stage.still pose)
  else
    let candidate := candidate stage pose axis travel
    let position := stage.place pose.position candidate (candidate + pose.view)
    .ok (stage.reach (carry pose position) slide.easing slide.speed)

/-- Carries out a truck.  A camera on its target has no sides and stays there. -/
def truck (slide : Slide α) (stage : Stage α) (pose : Pose α) : Outcome α (Take α) :=
  match Frame.ofView pose.position pose.target stage.settings.epsilon with
  | none => .ok (stage.still pose)
  | some frame => slide.along stage pose .truck ⟨[.right], [.left]⟩ frame.right

/-- Carries out a pedestal. -/
def pedestal (slide : Slide α) (stage : Stage α) (pose : Pose α) : Outcome α (Take α) :=
  slide.along stage pose .pedestal ⟨[.up], [.down]⟩ Vec.up

end Slide

end Cinematics
